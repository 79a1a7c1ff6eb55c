import LintReport.Proofs.SourceMap.Directive
import LintReport.Proofs.Text.LineBreaks
import LintReport.Proofs.Text.Trim
import LintReport.Proofs.Text.Utf8
import LintReport.Resolver.Lookup

/-!
# What a load leads to

Loading looks for the last directive of a generated file and goes where that leads: into the value
of the directive itself, or to a file. What comes of the load depends on these two steps and on the
text that they lead to.
-/

namespace LintReport

theorem Url.toPath_of_not_isFileUrl {t : Text} (h : Url.isFileUrl t = false) :
    Url.toPath t = .ok t := by
  simp [Url.toPath, h]

namespace Disk

variable {disk : Disk} {path t : Text}

theorem isFile_of_read (h : disk.read path = .ok t) : disk.isFile path = true := by
  unfold read at h
  unfold isFile
  cases hfile : disk.file? path with
  | some content => rfl
  | none => simp [hfile] at h

/-- A file that holds the bytes of a text is read as this text, with line feeds for line breaks. -/
theorem read_of_file?_encode (h : disk.file? path = some (.bytes (Utf8.encode t))) :
    disk.read path = .ok (unixLineBreaks t) := by
  rw [read, h]
  dsimp only [Content.text]
  rw [Utf8.decode?_encode]

end Disk

namespace Resolver

variable {disk : Disk} {generated value name t : Text}

/-! ## Directives -/

def directive (value : Text) : Text :=
  '/' :: '/' :: '#' :: ' ' :: (Directive.keyword ++ value)

/-- The directive on the last line of a file is the one that counts, however the lines before it
end. -/
theorem find?_directive {value : Text} (hne : value ≠ []) (hfeed : '\n' ∉ value)
    (hreturn : '\r' ∉ value) (hblank : ∀ c, value.getLast? = some c → Text.isBlank c = false)
    (before : Text) :
    Directive.find? (Disk.unixLineBreaks (before ++ '\n' :: directive value)) = some value := by
  have hclean : '\r' ∉ directive value := by
    have hstart : '\r' ∉ ['/', '/', '#', ' '] ++ Directive.keyword := by decide
    intro hmem
    rcases List.mem_append.mp (show '\r' ∈ (['/', '/', '#', ' '] ++ Directive.keyword) ++ value
      from hmem) with h | h
    · exact hstart h
    · exact hreturn h
  obtain ⟨before', hbefore⟩ := Disk.unixLineBreaks_append_newline before (directive value)
  rw [hbefore, Disk.unixLineBreaks_of_not_mem hclean]
  exact Directive.find?_last_line hne hfeed (Text.trimEnd_of_getLast? hblank) before'

/-- The value of the last directive of a generated file that can be read. -/
def directiveValue? (disk : Disk) (generated : Text) : Option Text :=
  match disk.read generated with
  | .ok t => Directive.find? t
  | .error _ => none

/-- The directive on the last line of a file is found, whatever the line breaks before it. -/
theorem directiveValue?_of_file? {before : Text} (hne : value ≠ []) (hfeed : '\n' ∉ value)
    (hreturn : '\r' ∉ value) (hblank : ∀ c, value.getLast? = some c → Text.isBlank c = false)
    (hfile : disk.file? generated =
      some (.bytes (Utf8.encode (before ++ '\n' :: directive value)))) :
    directiveValue? disk generated = some value := by
  rw [directiveValue?, Disk.read_of_file?_encode hfile]
  exact find?_directive hne hfeed hreturn hblank before

/-- Where a directive leads: the entry that it makes of a map, and the text of the map if that can be
read. -/
def target (disk : Disk) (generated value : Text) :
    Except Url.Fault ((Option SourceMap → Entry) × Option Text) :=
  if Directive.isInline value then
    .ok (.inline value, (Directive.inlineText value).toOption)
  else
    match Url.toPath value with
    | .ok name =>
      .ok (.external (besides disk generated name), (disk.read (besides disk generated name)).toOption)
    | .error fault => .error fault

/-- A value that is neither a data URL nor a file URL leads to the file that it names. -/
theorem target_of_file? (hinline : Directive.isInline value = false)
    (hurl : Url.isFileUrl value = false)
    (hfile : disk.file? (besides disk generated value) = some (.bytes (Utf8.encode t))) :
    target disk generated value =
      .ok (.external (besides disk generated value), some (Disk.unixLineBreaks t)) := by
  unfold target
  rw [hinline, if_neg Bool.false_ne_true, Url.toPath_of_not_isFileUrl hurl]
  dsimp only
  rw [Disk.read_of_file?_encode hfile]
  rfl

/-! ## Loads -/

theorem outcome_finish (depth : Nat) (opened : List Text) (entry : Option SourceMap → Entry)
    (t : Text) :
    (finish depth opened entry t).outcome =
      (parseMap depth t).map fun parsed => some (entry parsed.1) := by
  unfold finish
  cases parseMap depth t <;> rfl

theorem outcome_follow (disk : Disk) (opened : List Text) (generated value : Text) :
    (follow disk opened generated value).outcome =
      match target disk generated value with
      | .error _ => .error .badUrl
      | .ok (entry, none) => .ok (some (entry none))
      | .ok (entry, some t) =>
          (parseMap disk.room.sourceMap t).map fun parsed => some (entry parsed.1) := by
  unfold follow target
  split
  · cases Directive.inlineText value with
    | error fault => rfl
    | ok t => exact outcome_finish _ opened _ t
  · cases hname : Url.toPath value with
    | error fault => rfl
    | ok name =>
        unfold loadExternal
        dsimp only
        cases hread : disk.read (besides disk generated name) with
        | error fault => cases disk.isFile (besides disk generated name) <;> rfl
        | ok t =>
            rw [if_pos (Disk.isFile_of_read hread)]
            exact outcome_finish _ _ _ t

theorem outcome_load (disk : Disk) (generated : Text) :
    (load disk generated).outcome =
      match directiveValue? disk generated with
      | none => .ok (if disk.isFile generated then some .undirected else none)
      | some value => (follow disk (disk.opened generated) generated value).outcome := by
  unfold load directiveValue?
  cases hread : disk.read generated with
  | error fault => split <;> rfl
  | ok t =>
      rw [if_pos (Disk.isFile_of_read hread), if_pos (Disk.isFile_of_read hread)]
      dsimp only
      cases Directive.find? t <;> rfl

theorem sourceMap_of_parseMap {depth : Nat} {parsed : Option SourceMap × Note}
    (h : parseMap depth t = .ok parsed) : parsed.1 = (SourceMap.ofText t depth).toOption := by
  unfold parseMap at h
  split at h
  · next hmap =>
      obtain rfl := Except.ok.inj h
      rw [hmap]
      rfl
  · next hmap =>
      obtain rfl := Except.ok.inj h
      rw [hmap]
      rfl
  · cases h
  · cases h
  · cases h

theorem ofText_ne_tooDeep_of_parseMap {depth : Nat} {parsed : Option SourceMap × Note}
    (h : parseMap depth t = .ok parsed) : SourceMap.ofText t depth ≠ .error .tooDeep := by
  intro hdeep
  rw [parseMap, hdeep] at h
  cases h

theorem sourceMap?_of_target {entry : Option SourceMap → Entry} {text : Option Text}
    (h : target disk generated value = .ok (entry, text)) (sourceMap : Option SourceMap) :
    (entry sourceMap).sourceMap? = sourceMap := by
  unfold target at h
  split at h
  · obtain ⟨rfl, -⟩ := Prod.mk.inj (Except.ok.inj h)
    rfl
  · split at h
    · obtain ⟨rfl, -⟩ := Prod.mk.inj (Except.ok.inj h)
      rfl
    · cases h

/-- A load without a fault leads to an entry without a map, or to no entry, or else it has followed
a directive to a text that is accepted as a map. -/
theorem found_of_outcome_load {found : Option Entry}
    (h : (load disk generated).outcome = .ok found) :
    found.bind Entry.sourceMap? = none ∨
      ∃ value entry t sourceMap, directiveValue? disk generated = some value ∧
        target disk generated value = .ok (entry, some t) ∧
        SourceMap.ofText t disk.room.sourceMap = .ok sourceMap ∧
          found = some (entry (some sourceMap)) := by
  rw [outcome_load] at h
  cases hvalue : directiveValue? disk generated with
  | none =>
      rw [hvalue] at h
      obtain rfl := Except.ok.inj h
      refine Or.inl ?_
      split <;> rfl
  | some value =>
      rw [hvalue] at h
      dsimp only at h
      rw [outcome_follow] at h
      cases htarget : target disk generated value with
      | error fault =>
          rw [htarget] at h
          cases h
      | ok reached =>
          obtain ⟨entry, text⟩ := reached
          rw [htarget] at h
          cases text with
          | none =>
              obtain rfl := Except.ok.inj h
              exact Or.inl (sourceMap?_of_target htarget none)
          | some t =>
              dsimp only at h
              cases hparse : parseMap disk.room.sourceMap t with
              | error fault =>
                  rw [hparse] at h
                  cases h
              | ok parsed =>
                  rw [hparse] at h
                  obtain rfl := Except.ok.inj h
                  dsimp only
                  rw [sourceMap_of_parseMap hparse]
                  cases hmap : SourceMap.ofText t disk.room.sourceMap with
                  | error fault => exact Or.inl (sourceMap?_of_target htarget none)
                  | ok sourceMap =>
                      exact Or.inr ⟨value, entry, t, sourceMap, rfl, htarget, hmap, rfl⟩

/-- A load that follows a directive to a text leads to the entry that the text makes, or to a fault
of the text. -/
theorem outcome_load_of_text {entry : Option SourceMap → Entry}
    (hvalue : directiveValue? disk generated = some value)
    (htarget : target disk generated value = .ok (entry, some t)) :
    (load disk generated).outcome =
      (parseMap disk.room.sourceMap t).map fun parsed => some (entry parsed.1) := by
  rw [outcome_load, hvalue]
  dsimp only
  rw [outcome_follow, htarget]

theorem outcome_load_of_target {entry : Option SourceMap → Entry} {sourceMap : SourceMap}
    (hvalue : directiveValue? disk generated = some value)
    (htarget : target disk generated value = .ok (entry, some t))
    (hmap : SourceMap.ofText t disk.room.sourceMap = .ok sourceMap) :
    (load disk generated).outcome = .ok (some (entry (some sourceMap))) := by
  rw [outcome_load_of_text hvalue htarget, parseMap, hmap]
  rfl

end Resolver

end LintReport
