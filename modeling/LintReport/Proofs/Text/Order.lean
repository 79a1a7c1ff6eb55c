import LintReport.Text.Basic

/-!
# The order of texts

The order by code points is linear, so texts that are sorted by it without repetition are determined
by what they hold.
-/

namespace LintReport.Text

theorem le_cons_iff {a b : Char} {s t : Text} :
    le (a :: s) (b :: t) = true ↔ a.val < b.val ∨ (a = b ∧ le s t = true) := by
  simp [le]

theorem le_trans {s t u : Text} (hst : le s t = true) (htu : le t u = true) : le s u = true := by
  induction s generalizing t u with
  | nil => rfl
  | cons a s ih =>
      cases t with
      | nil => simp [le] at hst
      | cons b t =>
          cases u with
          | nil => simp [le] at htu
          | cons c u =>
              rw [le_cons_iff] at hst htu ⊢
              rcases hst with hab | ⟨rfl, hst⟩
              · rcases htu with hbc | ⟨rfl, -⟩
                · exact Or.inl (UInt32.lt_trans hab hbc)
                · exact Or.inl hab
              · rcases htu with hac | ⟨rfl, htu⟩
                · exact Or.inl hac
                · exact Or.inr ⟨rfl, ih hst htu⟩

theorem le_total (s t : Text) : le s t = true ∨ le t s = true := by
  induction s generalizing t with
  | nil => exact Or.inl rfl
  | cons a s ih =>
      cases t with
      | nil => exact Or.inr rfl
      | cons b t =>
          rw [le_cons_iff, le_cons_iff]
          rcases Nat.lt_trichotomy a.val.toNat b.val.toNat with hab | hab | hba
          · exact Or.inl (Or.inl (UInt32.lt_iff_toNat_lt.mpr hab))
          · obtain rfl := Char.ext (UInt32.toNat_inj.mp hab)
            rcases ih t with h | h
            · exact Or.inl (Or.inr ⟨rfl, h⟩)
            · exact Or.inr (Or.inr ⟨rfl, h⟩)
          · exact Or.inr (Or.inl (UInt32.lt_iff_toNat_lt.mpr hba))

theorem le_antisymm {s t : Text} (hst : le s t = true) (hts : le t s = true) : s = t := by
  induction s generalizing t with
  | nil =>
      cases t with
      | nil => rfl
      | cons b t => simp [le] at hts
  | cons a s ih =>
      cases t with
      | nil => simp [le] at hst
      | cons b t =>
          rw [le_cons_iff] at hst hts
          rcases hst with hab | ⟨rfl, hst⟩
          · rcases hts with hba | ⟨rfl, -⟩
            · exact absurd hba (UInt32.lt_asymm hab)
            · exact absurd hab (UInt32.lt_irrefl _)
          · rcases hts with haa | ⟨-, hts⟩
            · exact absurd haa (UInt32.lt_irrefl _)
            · rw [ih hst hts]

def Precedes (s t : Text) : Prop :=
  le s t = true ∧ s ≠ t

instance (s t : Text) : Decidable (Precedes s t) :=
  inferInstanceAs (Decidable (le s t = true ∧ s ≠ t))

end LintReport.Text
