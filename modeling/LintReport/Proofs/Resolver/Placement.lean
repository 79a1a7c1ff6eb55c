import LintReport.Proofs.Path.Normal
import LintReport.Proofs.Resolver.Load
import LintReport.Proofs.Resolver.Recall
import LintReport.Proofs.SourceMap.Inline
import LintReport.Proofs.SourceMap.Misfit

/-!
# Where the text of a map stands

A map may stand inline in the generated file, in base64, or in a file of its own beside it. In both
places it is the same map: a position leads to the same line and column of the same source, and only
the path of the source is written differently.
-/

namespace LintReport.Resolver

section Besides

variable {disk : Disk} {generated name : Text}
  (hdirectory : Path.isAbsolute disk.workingDirectory = true)

include hdirectory

/-- What lies beside a file that lies beside the generated file lies beside the generated file. -/
theorem besides_besides (hname : Path.IsName name) (source : Text) :
    besides disk (besides disk generated name) source = besides disk generated source := by
  have hbesides (path p : Text) : besides disk path p =
      Path.normalize (Path.join (Path.join disk.workingDirectory (Path.parent path)) p) := by
    rw [besides, Path.absolute_eq_normalize_join, Path.join_assoc]
  have hdir := Path.isAbsolute_join hdirectory (Path.parent generated)
  -- the parent of the nearer file is the normalised directory of the generated file
  calc besides disk (besides disk generated name) source
      = Path.normalize (Path.join (Path.join disk.workingDirectory
          (Path.normalize (Path.join disk.workingDirectory (Path.parent generated)))) source) := by
        rw [hbesides, hbesides generated, Path.parent_normalize_join hdir hname]
    _ = Path.normalize (Path.join
          (Path.normalize (Path.join disk.workingDirectory (Path.parent generated))) source) := by
        rw [Path.join_of_isAbsolute (Path.isAbsolute_normalize hdir)]
    _ = besides disk generated source := by
        rw [Path.normalize_join_normalize hdir, hbesides]

end Besides

section Answer

variable {disk : Disk} {generated value t : Text}

theorem directiveValue?_inlineValue {before : Text}
    (hfile : disk.file? generated =
      some (.bytes (Utf8.encode (before ++ '\n' :: directive (Directive.inlineValue t))))) :
    directiveValue? disk generated = some (Directive.inlineValue t) := by
  have hvisible (c : Char) (hc : c ∈ Directive.inlineValue t) :
      0x21 ≤ c.toNat ∧ c.toNat < 0x7F := Directive.toNat_of_mem_inlineValue hc
  have hfeed : '\n' ∉ Directive.inlineValue t := fun hc => absurd (hvisible _ hc) (by decide)
  have hreturn : '\r' ∉ Directive.inlineValue t := fun hc => absurd (hvisible _ hc) (by decide)
  have hblank (c : Char) (hc : (Directive.inlineValue t).getLast? = some c) :
      Text.isBlank c = false := Text.isBlank_of_visible (hvisible c (List.mem_of_getLast? hc))
  exact directiveValue?_of_file? (Directive.inlineValue_ne_nil t) hfeed hreturn hblank hfile

theorem target_inlineValue :
    target disk generated (Directive.inlineValue t) =
      .ok (.inline (Directive.inlineValue t), some t) := by
  rw [target, Directive.isInline_inlineValue, if_pos rfl, Directive.inlineText_inlineValue]
  rfl

/-- A directive with the plain name of a file leads to the file of this name beside the generated
file. -/
theorem target_name {name : Text} (hname : Path.IsName name) (ht : '\r' ∉ t)
    (hfile : disk.file? (besides disk generated name) = some (.bytes (Utf8.encode t))) :
    target disk generated name = .ok (.external (besides disk generated name), some t) := by
  rw [target_of_file? (Directive.isInline_of_not_mem hname.slash_not_mem)
    (Url.isFileUrl_of_not_mem hname.slash_not_mem) hfile, Disk.unixLineBreaks_of_not_mem ht]

/-- What an answer rests on: no map, no mapping for the position, or the origin of the position and
the path of its source. -/
inductive Answers (disk : Disk) (found : Entry) (p : Position) : Resolution → Prop
  | noMap (hmap : found.sourceMap? = none) : Answers disk found p ⟨.noMap, p⟩
  | noMatch {sourceMap : SourceMap} (hmap : found.sourceMap? = some sourceMap)
      (horigin : sourceMap.origin? p.line p.column .greatestLowerBound = .ok none) :
      Answers disk found p ⟨.noMatch, p⟩
  | found {sourceMap : SourceMap} {origin : Origin} {path : Text}
      (hmap : found.sourceMap? = some sourceMap)
      (horigin : sourceMap.origin? p.line p.column .greatestLowerBound = .ok (some origin))
      (hpath : sourcePath disk found origin.source = .ok path) :
      Answers disk found p ⟨.found, ⟨path, .int origin.line, .int origin.column⟩⟩

theorem answers_of_answer {found : Entry} {p : Position} {r : Resolution}
    (h : (answer disk (some found) p).1 = .ok r) : Answers disk found p r := by
  unfold answer at h
  dsimp only at h
  split at h
  · next hmap =>
      obtain rfl := Except.ok.inj h
      exact .noMap hmap
  · next sourceMap hmap =>
      split at h
      · cases h
      · next horigin =>
          obtain rfl := Except.ok.inj h
          exact .noMatch hmap horigin
      · next origin horigin =>
          split at h
          · cases h
          · next path hpath =>
              obtain rfl := Except.ok.inj h
              exact .found hmap horigin hpath

theorem sourcePath_inline_eq_ok {url path : Text} {sourceMap : Option SourceMap} {source : Value}
    (h : sourcePath disk (.inline url sourceMap) source = .ok path) :
    ∃ s, source = .str s ∧ path = Directive.inlineStart ++ s := by
  unfold sourcePath at h
  cases source with
  | str s => exact ⟨s, rfl, (Except.ok.inj h).symm⟩
  | _ => cases h

theorem sourcePath_external_eq_ok {file path s : Text} {sourceMap : Option SourceMap}
    (h : sourcePath disk (.external file sourceMap) (.str s) = .ok path) :
    ∃ name, Url.toPath s = .ok name ∧ path = besides disk file name := by
  unfold sourcePath at h
  dsimp only at h
  split at h
  · next name hname => exact ⟨name, hname, (Except.ok.inj h).symm⟩
  · cases h

/-- A lookup through a fresh cache answers from the entry that the text of the map makes. -/
theorem answers_of_result_lookup {entry : Option SourceMap → Entry} {p : Position} {r : Resolution}
    (hvalue : directiveValue? disk p.source = some value)
    (htarget : target disk p.source value = .ok (entry, some t))
    (h : (lookup disk Cache.empty p).result = .ok r) :
    SourceMap.ofText t disk.room.sourceMap ≠ .error .tooDeep ∧
      Answers disk (entry (SourceMap.ofText t disk.room.sourceMap).toOption) p r := by
  rw [result_lookup_empty, outcome_load_of_text hvalue htarget] at h
  cases hparse : parseMap disk.room.sourceMap t with
  | error fault =>
      rw [hparse] at h
      cases h
  | ok parsed =>
      rw [hparse] at h
      refine ⟨ofText_ne_tooDeep_of_parseMap hparse, ?_⟩
      rw [← sourceMap_of_parseMap hparse]
      exact answers_of_answer h

/-- Entries with the same map answer alike, but for the paths of the sources. -/
theorem Answers.agree {other : Disk} {found found' : Entry} {p : Position} {r r' : Resolution}
    (h : Answers disk found p r) (h' : Answers other found' p r')
    (hsame : found.sourceMap? = found'.sourceMap?) :
    (r.outcome ≠ .found ∧ r.position = p ∧ r' = r) ∨
      ∃ sourceMap origin path path', found.sourceMap? = some sourceMap ∧
        sourceMap.origin? p.line p.column .greatestLowerBound = .ok (some origin) ∧
        sourcePath disk found origin.source = .ok path ∧
        sourcePath other found' origin.source = .ok path' ∧
        r = ⟨.found, ⟨path, .int origin.line, .int origin.column⟩⟩ ∧
        r' = ⟨.found, ⟨path', .int origin.line, .int origin.column⟩⟩ := by
  cases h with
  | noMap hmap =>
      rw [hmap] at hsame
      cases h' with
      | noMap hmap' => exact Or.inl ⟨by simp, rfl, rfl⟩
      | noMatch hmap' horigin' => simp [hmap'] at hsame
      | found hmap' horigin' hpath' => simp [hmap'] at hsame
  | noMatch hmap horigin =>
      rw [hmap] at hsame
      cases h' with
      | noMap hmap' => simp [hmap'] at hsame
      | noMatch hmap' horigin' => exact Or.inl ⟨by simp, rfl, rfl⟩
      | found hmap' horigin' hpath' =>
          obtain rfl := Option.some.inj (hsame.trans hmap')
          rw [horigin] at horigin'
          cases horigin'
  | found hmap horigin hpath =>
      rw [hmap] at hsame
      cases h' with
      | noMap hmap' => simp [hmap'] at hsame
      | noMatch hmap' horigin' =>
          obtain rfl := Option.some.inj (hsame.trans hmap')
          rw [horigin] at horigin'
          cases horigin'
      | found hmap' horigin' hpath' =>
          obtain rfl := Option.some.inj (hsame.trans hmap')
          rw [horigin] at horigin'
          obtain rfl := Option.some.inj (Except.ok.inj horigin')
          exact Or.inr ⟨_, _, _, _, hmap, horigin, hpath, hpath', rfl, rfl⟩

end Answer

/-- Take the text of a map without carriage returns, and two disks whose generated files differ in
the directive on the last line only: on one disk it gives the text inline, on the other it is the
plain name of a file beside the generated file that holds the text. The working directory is
absolute, as every one is. If lookups of one position on both disks answer, then they answer alike.
Without a source both give the position itself. Otherwise both give the same line and column, and of
the same source of the map the one names it with the beginning of the data URL before it, the other
as it lies beside the generated file. -/
theorem lookup_inline_external {inlineDisk externalDisk : Disk} {before name t : Text}
    {p : Position} {r r' : Resolution} (ht : '\r' ∉ t) (hname : Path.IsName name)
    (hfeed : '\n' ∉ name) (hreturn : '\r' ∉ name)
    (hblank : ∀ c, name.getLast? = some c → Text.isBlank c = false)
    (hdirectory : Path.isAbsolute externalDisk.workingDirectory = true)
    (hinline : inlineDisk.file? p.source =
      some (.bytes (Utf8.encode (before ++ '\n' :: directive (Directive.inlineValue t)))))
    (hexternal : externalDisk.file? p.source =
      some (.bytes (Utf8.encode (before ++ '\n' :: directive name))))
    (hmap : externalDisk.file? (besides externalDisk p.source name) =
      some (.bytes (Utf8.encode t)))
    (h : (lookup inlineDisk Cache.empty p).result = .ok r)
    (h' : (lookup externalDisk Cache.empty p).result = .ok r') :
    r.outcome = r'.outcome ∧
      (r.outcome ≠ .found → r.position = p ∧ r'.position = p) ∧
      (r.outcome = .found →
        r.position.line = r'.position.line ∧ r.position.column = r'.position.column ∧
          ∃ sourceMap origin s path,
            SourceMap.ofText t inlineDisk.room.sourceMap = .ok sourceMap ∧
            sourceMap.origin? p.line p.column .greatestLowerBound = .ok (some origin) ∧
            origin.source = .str s ∧ r.position.source = Directive.inlineStart ++ s ∧
            Url.toPath s = .ok path ∧
            r'.position.source = besides externalDisk p.source path) := by
  obtain ⟨hdeep, hanswers⟩ :=
    answers_of_result_lookup (directiveValue?_inlineValue hinline) target_inlineValue h
  obtain ⟨hdeep', hanswers'⟩ :=
    answers_of_result_lookup (directiveValue?_of_file? hname.ne_nil hfeed hreturn hblank hexternal)
      (target_name hname ht hmap) h'
  -- there may be more room on one disk, but there is enough on both
  rw [SourceMap.ofText_eq_of_ne_tooDeep hdeep hdeep'] at hanswers'
  -- both entries hold the map in `t`, so only the two paths of a found source are left to compare
  rcases hanswers.agree hanswers' rfl with ⟨houtcome, hposition, rfl⟩ |
    ⟨sourceMap, origin, path, path', hsome, horigin, hpath, hpath', rfl, rfl⟩
  · exact ⟨rfl, fun _ => ⟨hposition, hposition⟩, fun hfound => absurd hfound houtcome⟩
  · have hofText : SourceMap.ofText t inlineDisk.room.sourceMap = .ok sourceMap := by
      cases hmap : SourceMap.ofText t inlineDisk.room.sourceMap with
      | error fault =>
          rw [hmap] at hsome
          cases hsome
      | ok sourceMap' =>
          rw [hmap] at hsome
          rw [Option.some.inj hsome]
    obtain ⟨s, hs, rfl⟩ := sourcePath_inline_eq_ok hpath
    rw [hs] at hpath'
    obtain ⟨file, hfile, rfl⟩ := sourcePath_external_eq_ok hpath'
    refine ⟨rfl, fun hne => absurd rfl hne, fun _ => ⟨rfl, rfl, sourceMap, origin, s, file, hofText,
      horigin, hs, rfl, hfile, ?_⟩⟩
    exact besides_besides hdirectory hname file

def outMapText : Text :=
  "\x7b\"version\":3,\"sources\":[\"../src/s.ts\"],\"mappings\":\"AAAA\"\x7d"

def outMap : SourceMap where
  file := .null
  sourceRoot := .str []
  names := []
  sources := [.str "../src/s.ts"]
  lines := #[#[⟨1, 0, some ⟨0, 1, 0, none⟩⟩]]

def inlineOutDisk : Disk :=
  ⟨"/w", [("/w/out/a.js", .bytes (Utf8.encode
    ("x".toList ++ '\n' :: directive (Directive.inlineValue outMapText))))], [], {}⟩

def externalOutDisk : Disk :=
  ⟨"/w", [("/w/out/a.js", .bytes (Utf8.encode ("x".toList ++ '\n' :: directive "a.map"))),
    ("/w/out/a.map", .bytes (Utf8.encode outMapText))], [], {}⟩

theorem ofText_outMapText : SourceMap.ofText outMapText = .ok outMap := by
  have hguard : SourceMap.dropGuard outMapText = outMapText := rfl
  have hjson : Json.read outMapText =
      .ok (.map [(.str "version", .int 3), (.str "sources", .list [.str "../src/s.ts"]),
        (.str "mappings", .str "AAAA")]) := rfl
  have hparse : Mappings.parse "AAAA" = .ok [[⟨1, 0, some ⟨0, 1, 0, none⟩⟩]] := by decide +kernel
  rw [SourceMap.ofText, hguard, hjson]
  show SourceMap.ofFields _ "AAAA" = _
  rw [SourceMap.ofFields_eq, hparse]
  rfl

theorem lookup_outDisks :
    let p : Position := ⟨"out/a.js", .int 1, .int 4⟩
    ∃ r r', (lookup inlineOutDisk Cache.empty p).result = .ok r ∧
      (lookup externalOutDisk Cache.empty p).result = .ok r' ∧ r.outcome = .found ∧
      r.outcome = r'.outcome ∧ r.position.line = r'.position.line ∧
      r.position.source = Directive.inlineStart ++ "../src/s.ts".toList ∧
      r'.position.source = "/w/src/s.ts".toList := by
  have hname : Path.IsName "a.map" := ⟨by decide, by decide, by decide, by decide⟩
  have hblank : ∀ c, ("a.map".toList : Text).getLast? = some c → Text.isBlank c = false :=
    Text.isBlank_of_getLast? rfl (by decide)
  have hinline : inlineOutDisk.file? "out/a.js" = some (.bytes (Utf8.encode
      ("x".toList ++ '\n' :: directive (Directive.inlineValue outMapText)))) := rfl
  have hexternal : externalOutDisk.file? "out/a.js" = some (.bytes (Utf8.encode
      ("x".toList ++ '\n' :: directive "a.map"))) := rfl
  have hmap : externalOutDisk.file? (besides externalOutDisk "out/a.js" "a.map") =
      some (.bytes (Utf8.encode outMapText)) := rfl
  have horigin : outMap.origin? (.int 1) (.int 4) .greatestLowerBound =
      .ok (some ⟨.str "../src/s.ts", 1, 0, .null⟩) := by with_unfolding_all rfl
  have hload := outcome_load_of_target (directiveValue?_inlineValue hinline) target_inlineValue
    ofText_outMapText
  have hload' := outcome_load_of_target
    (directiveValue?_of_file? (by decide) (by decide) (by decide) hblank hexternal)
    (target_name hname (by decide) hmap) ofText_outMapText
  have hpath : sourcePath inlineOutDisk (.inline (Directive.inlineValue outMapText) (some outMap))
      (.str "../src/s.ts") = .ok (Directive.inlineStart ++ "../src/s.ts".toList) := rfl
  have hpath' : sourcePath externalOutDisk
      (.external (besides externalOutDisk "out/a.js" "a.map") (some outMap)) (.str "../src/s.ts") =
        .ok "/w/src/s.ts" := rfl
  have hresult : (lookup inlineOutDisk Cache.empty ⟨"out/a.js", .int 1, .int 4⟩).result =
      .ok ⟨.found, ⟨Directive.inlineStart ++ "../src/s.ts".toList, .int 1, .int 0⟩⟩ := by
    rw [result_lookup_empty, hload, Except.bind, answer_of_origin? rfl horigin hpath]
  have hresult' : (lookup externalOutDisk Cache.empty ⟨"out/a.js", .int 1, .int 4⟩).result =
      .ok ⟨.found, ⟨"/w/src/s.ts", .int 1, .int 0⟩⟩ := by
    rw [result_lookup_empty, hload', Except.bind, answer_of_origin? rfl horigin hpath']
  obtain ⟨houtcome, -, hfound⟩ := lookup_inline_external (by decide) hname (by decide) (by decide)
    hblank rfl hinline hexternal hmap hresult hresult'
  exact ⟨_, _, hresult, hresult', rfl, houtcome, (hfound rfl).1, rfl, rfl⟩

end LintReport.Resolver
