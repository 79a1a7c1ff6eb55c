import LintReport.Proofs.Json.Nesting
import LintReport.Proofs.Json.Shown
import LintReport.Proofs.SourceMap.Written

/-!
# Source maps of the wrong kind

Which texts are neither accepted as a source map nor refused for a flaw: those that are nested too
deep, and those that write an object whose version and mappings are right, but whose names or
sources are of a kind that nothing can be made of.
-/

namespace LintReport.SourceMap

variable {field root source : Value} {sources : List Value} {entries : List (Value × Value)}

/-- A fault that is no flaw: nothing comes of the map, not even its refusal. -/
def Fault.isRaised : Fault → Bool
  | flaw _ => false
  | wrongKind | numberTooLong | tooDeep => true

/-! ## Fields -/

/-- A field that should give elements and has none: it counts as true, but is no list, no text and
no object. -/
def Unlistable (field : Value) : Prop :=
  field.truthy = true ∧ field.elements? = none

theorem fieldElements_eq_error_iff :
    (∃ fault, fieldElements field = .error fault) ↔ Unlistable field := by
  unfold fieldElements Unlistable Value.orElse
  cases htruthy : field.truthy with
  | false => simp [Value.elements?]
  | true =>
      cases helements : field.elements? <;> simp [helements]

theorem fault_of_fieldElements {fault : Fault} (h : fieldElements field = .error fault) :
    fault = .wrongKind := by
  unfold fieldElements at h
  split at h
  · simp at h
  · exact (Except.error.inj h).symm

/-- A source that cannot be put under a source root: it is there, it does not name its own protocol,
and it is no text, or a relative path where the root is no text. -/
def Unrooted (root source : Value) : Prop :=
  root.truthy = true ∧ source ≠ .null ∧ namesProtocol? source ≠ some true ∧
    ∀ s, source = .str s → Path.isAbsolute s = false ∧ ∀ r, root ≠ .str r

theorem underRoot_of_truthy : root.truthy = true → source ≠ .null →
    underRoot root source =
      match namesProtocol? source with
      | none => .error .wrongKind
      | some true => .ok source
      | some false =>
        match source, root with
        | .str s, .str r => .ok (.str (Path.join r s))
        | .str s, _ => if Path.isAbsolute s then .ok source else .error .wrongKind
        | _, _ => .error .wrongKind := by
  intro hroot hsource
  unfold underRoot
  split
  · exact absurd rfl hsource
  · exact if_pos hroot

theorem underRoot_of_not_truthy (hroot : root.truthy = false) :
    underRoot root source = .ok source := by
  unfold underRoot
  split
  · rfl
  · simp [hroot]

theorem underRoot_eq_error_iff :
    (∃ fault, underRoot root source = .error fault) ↔ Unrooted root source := by
  unfold Unrooted
  cases hroot : root.truthy with
  | false => simp [underRoot_of_not_truthy hroot]
  | true =>
      by_cases hsource : source = .null
      · simp [hsource, underRoot]
      · rw [underRoot_of_truthy hroot hsource]
        cases hprotocol : namesProtocol? source with
        | none =>
            have hstr : ∀ s, source ≠ .str s := by
              rintro s rfl
              simp [namesProtocol?] at hprotocol
            simp [hsource, hstr]
        | some own =>
            cases own with
            | true => simp
            | false =>
                cases source with
                | str s =>
                    cases root with
                    | str r => simp
                    | _ => cases habsolute : Path.isAbsolute s <;> simp [habsolute]
                | null => exact absurd rfl hsource
                | _ => simp

theorem fault_of_underRoot {fault : Fault} (h : underRoot root source = .error fault) :
    fault = .wrongKind := by
  unfold underRoot at h
  split at h
  · simp at h
  · split at h
    · split at h
      · exact (Except.error.inj h).symm
      · simp at h
      · split at h
        · simp at h
        · split at h
          · simp at h
          · exact (Except.error.inj h).symm
        · exact (Except.error.inj h).symm
    · simp at h

theorem allUnderRoot_eq_error_iff :
    (∃ fault, allUnderRoot root sources = .error fault) ↔
      ∃ source ∈ sources, Unrooted root source := by
  induction sources with
  | nil => simp [allUnderRoot]
  | cons source rest ih =>
      simp only [allUnderRoot, List.mem_cons, exists_eq_or_imp]
      rw [← underRoot_eq_error_iff, ← ih]
      cases underRoot root source with
      | error fault => simp
      | ok placed => cases allUnderRoot root rest <;> simp [Except.map]

theorem fault_of_allUnderRoot {fault : Fault} (h : allUnderRoot root sources = .error fault) :
    fault = .wrongKind := by
  induction sources with
  | nil => simp [allUnderRoot] at h
  | cons source rest ih =>
      rw [allUnderRoot] at h
      split at h
      · next hplaced =>
          obtain rfl := Except.error.inj h
          exact fault_of_underRoot hplaced
      · cases hrest : allUnderRoot root rest with
        | error fault' =>
            rw [hrest] at h
            obtain rfl := Except.error.inj h
            exact ih hrest
        | ok placed =>
            rw [hrest] at h
            simp [Except.map] at h

/-! ## Objects and texts -/

structure Checked (entries : List (Value × Value)) : Prop where
  noSections : Value.named? "sections" entries = none
  version : (Value.namedD entries "version").isInt supportedVersion = true
  mappings : ∃ s, Value.namedD entries "mappings" = .str s

/-- The fields that are not checked are wrong: the names or the sources cannot be listed, or a source
cannot be put under the source root. -/
inductive Misfit (entries : List (Value × Value)) : Prop where
  | names (h : Unlistable (Value.namedD entries "names"))
  | sources (h : Unlistable (Value.namedD entries "sources"))
  | root {sources : List Value} {source : Value}
      (hsources : fieldElements (Value.namedD entries "sources") = .ok sources)
      (hmem : source ∈ sources)
      (h : Unrooted ((Value.namedD entries "sourceRoot").orElse (.str [])) source)

theorem ofFields_raises_iff (mappings : Text) :
    (∃ fault, ofFields entries mappings = .error fault ∧ fault.isRaised = true) ↔
      Misfit entries := by
  rw [ofFields_eq]
  constructor
  · rintro ⟨fault, h, hraised⟩
    cases hnames : fieldElements (Value.namedD entries "names") with
    | error _ => exact .names (fieldElements_eq_error_iff.mp ⟨_, hnames⟩)
    | ok names =>
        cases hsources : fieldElements (Value.namedD entries "sources") with
        | error _ => exact .sources (fieldElements_eq_error_iff.mp ⟨_, hsources⟩)
        | ok sources =>
            rw [hnames, hsources] at h
            dsimp only at h
            split at h
            · next hall =>
                obtain ⟨source, hmem, hsource⟩ := allUnderRoot_eq_error_iff.mp ⟨_, hall⟩
                exact .root hsources hmem hsource
            · split at h
              · obtain rfl := Except.error.inj h
                simp [Fault.isRaised] at hraised
              · simp at h
  · intro h
    -- a misfit may be met earlier than the one that is given, but not another fault
    cases hnames : fieldElements (Value.namedD entries "names") with
    | error fault =>
        obtain rfl := fault_of_fieldElements hnames
        exact ⟨.wrongKind, rfl, rfl⟩
    | ok names =>
        cases hsources : fieldElements (Value.namedD entries "sources") with
        | error fault =>
            obtain rfl := fault_of_fieldElements hsources
            exact ⟨.wrongKind, rfl, rfl⟩
        | ok sources =>
            dsimp only
            cases h with
            | names h =>
                obtain ⟨fault, herror⟩ := fieldElements_eq_error_iff.mpr h
                rw [hnames] at herror
                cases herror
            | sources h =>
                obtain ⟨fault, herror⟩ := fieldElements_eq_error_iff.mpr h
                rw [hsources] at herror
                cases herror
            | root hsources' hmem h =>
                obtain rfl := Except.ok.inj (hsources.symm.trans hsources')
                obtain ⟨fault, herror⟩ := allUnderRoot_eq_error_iff.mpr ⟨_, hmem, h⟩
                obtain rfl := fault_of_allUnderRoot herror
                rw [herror]
                exact ⟨.wrongKind, rfl, rfl⟩

theorem ofValue_raises_iff {v : Value} (hv : v.HasText) :
    (∃ fault, ofValue v = .error fault ∧ fault.isRaised = true) ↔
      ∃ entries, v = .map entries ∧ Checked entries ∧ Misfit entries := by
  cases v with
  | map entries =>
      constructor
      · rintro ⟨fault, h, hraised⟩
        refine ⟨entries, rfl, ?_⟩
        unfold ofValue at h
        dsimp only at h
        split at h
        · obtain rfl := Except.error.inj h
          simp [Fault.isRaised] at hraised
        · next hsections =>
            split at h
            · next hversion =>
                split at h
                · next mappings hmappings =>
                    have hchecked : Checked entries :=
                      ⟨by simpa using hsections, hversion, mappings, hmappings⟩
                    exact ⟨hchecked, (ofFields_raises_iff mappings).mp ⟨fault, h, hraised⟩⟩
                · obtain rfl := Except.error.inj h
                  simp [Fault.isRaised] at hraised
            · split at h
              · obtain rfl := Except.error.inj h
                simp [Fault.isRaised] at hraised
              · -- the version has a text, as all that stands in the object
                next hshown =>
                  exact absurd hshown (Option.isSome_iff_ne_none.mp (Value.hasText_namedD hv _))
      · rintro ⟨entries', heq, ⟨hsections, hversion, mappings, hmappings⟩, hmisfit⟩
        obtain rfl := Value.map.inj heq
        obtain ⟨fault, h, hraised⟩ := (ofFields_raises_iff mappings).mpr hmisfit
        refine ⟨fault, ?_, hraised⟩
        unfold ofValue
        dsimp only
        rw [hsections, Option.isSome_none, if_neg Bool.false_ne_true, if_pos hversion, hmappings]
        exact h
  | _ => simp [ofValue, Fault.isRaised]

/-- Neither a map nor a flaw comes of a text that is nested too deep, or that writes an object in
which all that is checked is right and something else is wrong. Of every other text one of the two
comes. -/
theorem ofText_raises_iff (t : Text) (depth : Nat) :
    (∃ fault, ofText t depth = .error fault ∧ fault.isRaised = true) ↔
      Json.read (dropGuard t) depth = .error .tooDeep ∨
        ∃ entries, Json.read (dropGuard t) depth = .ok (.map entries) ∧ Checked entries ∧
          Misfit entries := by
  unfold ofText
  cases hread : Json.read (dropGuard t) depth with
  | error fault => cases fault <;> simp [Fault.isRaised]
  | ok v =>
      dsimp only
      rw [ofValue_raises_iff (Json.hasText_of_read hread)]
      simp

theorem read_ne_tooDeep_of_ofText {t : Text} {depth : Nat} (h : ofText t depth ≠ .error .tooDeep) :
    Json.read (dropGuard t) depth ≠ .error .tooDeep := by
  intro hread
  rw [ofText, hread] at h
  exact h rfl

/-- The same comes of a text wherever there is room enough for it. -/
theorem ofText_eq_of_ne_tooDeep {t : Text} {depth depth' : Nat}
    (h : ofText t depth ≠ .error .tooDeep) (h' : ofText t depth' ≠ .error .tooDeep) :
    ofText t depth' = ofText t depth := by
  rw [ofText, ofText, Json.read_eq_of_ne_tooDeep (read_ne_tooDeep_of_ofText h)
    (read_ne_tooDeep_of_ofText h')]

end LintReport.SourceMap
