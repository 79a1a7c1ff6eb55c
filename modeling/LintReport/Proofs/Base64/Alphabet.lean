import LintReport.Base64.Alphabet
import Mathlib.Data.List.Basic

/-!
# The alphabet as a table

The number of a letter is its place in the alphabet, and a character outside the alphabet has none.
-/

namespace LintReport.Base64

/-- The letters in the order of their numbers. -/
def alphabet : Text := "ABCDEFGHIJKLMNOPQRSTUVWXYZabcdefghijklmnopqrstuvwxyz0123456789+/"

def index (c : Char) : Nat :=
  alphabet.idxOf c

theorem alphabet_eq_letters : alphabet = (List.range 64).map letter := by decide

/-- A number belongs to one letter only. There is one case for each run of the alphabet. -/
theorem letter_of_digit? {c : Char} {d : Nat} (h : digit? c = some d) : d < 64 ∧ letter d = c := by
  have hcapitals : 'A'.toNat = 65 ∧ 'Z'.toNat = 90 := ⟨rfl, rfl⟩
  have hsmall : 'a'.toNat = 97 ∧ 'z'.toNat = 122 := ⟨rfl, rfl⟩
  have hfigures : '0'.toNat = 48 ∧ '9'.toNat = 57 := ⟨rfl, rfl⟩
  simp only [digit?, Char.le_def, UInt32.le_iff_toNat_le, Char.toNat_val] at h
  split at h
  · next hc =>
      obtain rfl := Option.some.inj h
      refine ⟨by omega, ?_⟩
      rw [letter, if_pos (by omega), show c.toNat - 65 + 65 = c.toNat by omega, Char.ofNat_toNat]
  · split at h
    · next hc =>
        obtain rfl := Option.some.inj h
        refine ⟨by omega, ?_⟩
        rw [letter, if_neg (by omega), if_pos (by omega),
          show c.toNat - 71 + 71 = c.toNat by omega, Char.ofNat_toNat]
    · split at h
      · next hc =>
          obtain rfl := Option.some.inj h
          refine ⟨by omega, ?_⟩
          rw [letter, if_neg (by omega), if_neg (by omega), if_pos (by omega),
            show c.toNat + 4 - 4 = c.toNat by omega, Char.ofNat_toNat]
      · split at h
        · next hc =>
            obtain rfl := Option.some.inj h
            exact ⟨by omega, hc.symm⟩
        · split at h
          · next hc =>
              obtain rfl := Option.some.inj h
              exact ⟨by omega, hc.symm⟩
          · cases h

theorem digit?_eq_some_iff {c : Char} {d : Nat} : digit? c = some d ↔ alphabet[d]? = some c := by
  rw [alphabet_eq_letters, List.getElem?_map]
  constructor
  · intro h
    obtain ⟨hd, hletter⟩ := letter_of_digit? h
    rw [List.getElem?_range hd, Option.map_some, hletter]
  · intro h
    obtain ⟨n, hn, rfl⟩ := Option.map_eq_some_iff.mp h
    obtain ⟨hd, rfl⟩ := List.getElem?_eq_some_iff.mp hn
    rw [List.length_range] at hd
    rw [List.getElem_range]
    exact digit?_letter hd

theorem digit?_of_mem {c : Char} (h : c ∈ alphabet) : digit? c = some (index c) := by
  rw [digit?_eq_some_iff, index]
  exact List.getElem?_idxOf h

theorem digit?_of_not_mem {c : Char} (h : c ∉ alphabet) : digit? c = none := by
  cases hc : digit? c with
  | none => rfl
  | some d => exact absurd (List.mem_of_getElem? (digit?_eq_some_iff.mp hc)) h

theorem letter_index {c : Char} (h : c ∈ alphabet) : index c < 64 ∧ letter (index c) = c :=
  letter_of_digit? (digit?_of_mem h)

end LintReport.Base64
