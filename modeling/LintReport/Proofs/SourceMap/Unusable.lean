import LintReport.Proofs.SourceMap.Grammar
import LintReport.Proofs.SourceMap.Misfit

/-!
# Texts that no source map comes of

The text of a map can fall short in many ways. In all of them it has a flaw, and so is taken for no
map at all, except where it is nested too deep: then not even a flaw comes of it.
-/

namespace LintReport

namespace SourceMap

/-! ## Ways to fall short -/

/-- The fields that are not checked are of the right kinds, if they are there: names a list, sources
a list of texts and nulls, the source root a text. -/
structure WellTyped (entries : List (Value × Value)) : Prop where
  names : Value.namedD entries "names" = .null ∨ ∃ xs, Value.namedD entries "names" = .list xs
  sources : Value.namedD entries "sources" = .null ∨
    ∃ xs, Value.namedD entries "sources" = .list xs ∧ ∀ x ∈ xs, x = .null ∨ ∃ s, x = .str s
  root : Value.namedD entries "sourceRoot" = .null ∨
    ∃ s, Value.namedD entries "sourceRoot" = .str s

/-- The ways in which the text of a map can fall short. -/
inductive Unusable (t : Text) (depth : Nat) : Prop where
  | notJson (h : ∀ v, Json.read (dropGuard t) depth ≠ .ok v)
  | notAnObject {v : Value} (hread : Json.read (dropGuard t) depth = .ok v)
      (h : ∀ entries, v ≠ .map entries)
  | sections {entries : List (Value × Value)}
      (hread : Json.read (dropGuard t) depth = .ok (.map entries))
      (h : (Value.named? "sections" entries).isSome = true)
  | version {entries : List (Value × Value)}
      (hread : Json.read (dropGuard t) depth = .ok (.map entries))
      (h : (Value.namedD entries "version").isInt supportedVersion = false)
  | noMappings {entries : List (Value × Value)}
      (hread : Json.read (dropGuard t) depth = .ok (.map entries))
      (h : ∀ mappings, Value.namedD entries "mappings" ≠ .str mappings)
  | mappings {entries : List (Value × Value)} {mappings : Text}
      (hread : Json.read (dropGuard t) depth = .ok (.map entries)) (htyped : WellTyped entries)
      (hmappings : Value.namedD entries "mappings" = .str mappings)
      (h : ¬ Mappings.InGrammar mappings)

variable {t : Text} {depth : Nat} {entries : List (Value × Value)}

theorem WellTyped.not_misfit (h : WellTyped entries) : ¬ Misfit entries := by
  rintro (⟨htruthy, hnone⟩ | ⟨htruthy, hnone⟩ | ⟨hsources, hmem, htruthy, hne, -, hroot⟩)
  · rcases h.names with hnull | ⟨xs, hlist⟩
    · rw [hnull] at htruthy
      cases htruthy
    · rw [hlist] at hnone
      cases hnone
  · rcases h.sources with hnull | ⟨xs, hlist, -⟩
    · rw [hnull] at htruthy
      cases htruthy
    · rw [hlist] at hnone
      cases hnone
  · rcases h.sources with hnull | ⟨xs, hlist, hxs⟩
    · rw [hnull] at hsources
      obtain rfl := Except.ok.inj hsources
      cases hmem
    · rw [hlist, fieldElements_list] at hsources
      obtain rfl := Except.ok.inj hsources
      obtain ⟨s, rfl⟩ := (hxs _ hmem).resolve_left hne
      rcases h.root with hnull | ⟨r, hr⟩
      · exact (hroot s rfl).2 [] (by rw [hnull]; rfl)
      · refine (hroot s rfl).2 r ?_
        rw [hr, Value.orElse]
        split
        · rfl
        · next hempty =>
            have hnil : r = [] := by simpa [Value.truthy] using hempty
            rw [hnil]

theorem exists_entries_of_ofText {sourceMap : SourceMap} (h : ofText t depth = .ok sourceMap) :
    ∃ entries mappings, Json.read (dropGuard t) depth = .ok (.map entries) ∧ Checked entries ∧
      Value.namedD entries "mappings" = .str mappings ∧ Mappings.InGrammar mappings := by
  unfold ofText at h
  split at h
  · next v hread =>
      obtain ⟨entries, mappings, lines, rfl, hsections, hversion, hmappings, hparse, -⟩ :=
        exists_parse_of_ofValue h
      exact ⟨entries, mappings, hread, ⟨hsections, hversion, mappings, hmappings⟩, hmappings,
        Mappings.exists_parse_iff.mp ⟨lines, hparse⟩⟩
  · cases h
  · cases h

/-- If a text falls short and an object is read from it nevertheless, then something that is checked
is wrong there, or else all but the mappings is right. -/
theorem Unusable.not_checked (h : Unusable t depth)
    (hentries : Json.read (dropGuard t) depth = .ok (.map entries)) :
    ¬ Checked entries ∨ WellTyped entries ∧
      ∀ mappings, Value.namedD entries "mappings" = .str mappings → ¬ Mappings.InGrammar mappings := by
  have hsame : ∀ v, Json.read (dropGuard t) depth = .ok v → v = .map entries := by
    intro v hv
    exact Except.ok.inj (hv.symm.trans hentries)
  cases h with
  | notJson h => exact absurd hentries (h _)
  | notAnObject hread h => exact absurd (hsame _ hread) (h entries)
  | sections hread h =>
      obtain rfl := Value.map.inj (hsame _ hread)
      left
      intro hchecked
      rw [hchecked.noSections] at h
      cases h
  | version hread h =>
      obtain rfl := Value.map.inj (hsame _ hread)
      left
      intro hchecked
      rw [hchecked.version] at h
      cases h
  | noMappings hread h =>
      obtain rfl := Value.map.inj (hsame _ hread)
      left
      intro hchecked
      obtain ⟨mappings, hmappings⟩ := hchecked.mappings
      exact h mappings hmappings
  | mappings hread htyped hmappings h =>
      obtain rfl := Value.map.inj (hsame _ hread)
      right
      refine ⟨htyped, ?_⟩
      intro mappings hmappings'
      obtain rfl := Value.str.inj (hmappings.symm.trans hmappings')
      exact h

theorem Unusable.not_accepted (h : Unusable t depth) (sourceMap : SourceMap) :
    SourceMap.ofText t depth ≠ .ok sourceMap := by
  intro hmap
  obtain ⟨entries, mappings, hentries, hchecked, hmappings, hgrammar⟩ :=
    exists_entries_of_ofText hmap
  rcases h.not_checked hentries with hnot | ⟨-, hnot⟩
  · exact hnot hchecked
  · exact hnot mappings hmappings hgrammar

/-- A text that falls short has a flaw, unless it is nested too deep. -/
theorem Unusable.ofText (h : Unusable t depth)
    (hdeep : Json.read (dropGuard t) depth ≠ .error .tooDeep) :
    ∃ flaw, ofText t depth = .error (.flaw flaw) := by
  cases hmap : SourceMap.ofText t depth with
  | ok sourceMap => exact absurd hmap (h.not_accepted sourceMap)
  | error fault =>
      cases hraised : fault.isRaised with
      | true =>
          rcases (ofText_raises_iff t depth).mp ⟨fault, hmap, hraised⟩ with htooDeep |
            ⟨entries, hentries, hchecked, hmisfit⟩
          · exact absurd htooDeep hdeep
          · rcases h.not_checked hentries with hnot | ⟨htyped, -⟩
            · exact absurd hchecked hnot
            · exact absurd hmisfit htyped.not_misfit
      | false =>
          cases fault with
          | flaw f => exact ⟨f, rfl⟩
          | _ => cases hraised

end SourceMap

end LintReport
