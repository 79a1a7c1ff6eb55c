import LintReport.Text.Lowercase

/-!
# What lower case leaves alone

No character becomes a digit, a sign or anything else that comes before the small letters, unless it
was that already. So a sign of ASCII that stands in the lower case of a text stands in the text. In a
text of ASCII only the capitals from A to Z have another lower case, each by itself.
-/

namespace LintReport.Text

/-- The small letter of a capital is no character before `a`. -/
theorem le_small_of_covers {run : CapitalRun} {n : Nat} (hrun : run ∈ capitalRuns)
    (h : run.covers n = true) : 0x61 ≤ (n : Int) + run.shift := by
  have all : ∀ r ∈ capitalRuns, 0x61 ≤ (r.first : Int) + r.shift := by decide +kernel
  have hfirst : run.first ≤ n := by
    simp only [CapitalRun.covers, Bool.and_eq_true, decide_eq_true_eq] at h
    exact h.1.1
  have := all run hrun
  omega

theorem lowerChar_eq_or (c : Char) :
    lowerChar c = c ∨ (lowerChar c).toNat = 0 ∨ 0x61 ≤ (lowerChar c).toNat := by
  unfold lowerChar
  split
  · next run hfind =>
      have hcovers : run.covers c.toNat = true := by simpa using List.find?_some hfind
      have hsmall := le_small_of_covers (List.mem_of_find?_eq_some hfind) hcovers
      by_cases hvalid : ((c.toNat : Int) + run.shift).toNat.isValidChar
      · rw [show Char.ofNat _ = Char.ofNatAux _ hvalid from dif_pos hvalid]
        refine Or.inr (Or.inr ?_)
        show 0x61 ≤ ((c.toNat : Int) + run.shift).toNat
        omega
      · rw [show Char.ofNat _ = '\x00' from dif_neg hvalid]
        exact Or.inr (Or.inl rfl)
  · exact Or.inl rfl

theorem mem_of_mem_lowerAfter {c : Char} (hpos : 0 < c.toNat) (hlt : c.toNat < 0x61)
    {before t : Text} (h : c ∈ lowerAfter before t) : c ∈ t := by
  induction t generalizing before with
  | nil => simp [lowerAfter] at h
  | cons d t ih =>
      rw [lowerAfter] at h
      -- the small sigmas, the small i and the combining dot all come after `a`
      split at h
      · rcases List.mem_cons.mp h with rfl | h
        · split at hlt <;> exact absurd hlt (by decide)
        · exact List.mem_cons_of_mem d (ih h)
      · split at h
        · rcases List.mem_cons.mp h with rfl | h
          · exact absurd hlt (by decide)
          · rcases List.mem_cons.mp h with rfl | h
            · exact absurd hlt (by decide)
            · exact List.mem_cons_of_mem d (ih h)
        · rcases List.mem_cons.mp h with rfl | h
          · rcases lowerChar_eq_or d with hd | hd | hd
            · simp [hd]
            · omega
            · omega
          · exact List.mem_cons_of_mem d (ih h)

theorem mem_of_mem_lower {c : Char} (hpos : 0 < c.toNat) (hlt : c.toNat < 0x61) {t : Text}
    (h : c ∈ lower t) : c ∈ t :=
  mem_of_mem_lowerAfter hpos hlt h

/-! ## Texts of ASCII -/

theorem covers_eq_false {run : CapitalRun} {n : Nat} (h : n < run.first ∨ run.last < n) :
    run.covers n = false := by
  apply Bool.eq_false_iff.mpr
  intro hcovers
  simp only [CapitalRun.covers, Bool.and_eq_true, decide_eq_true_eq] at hcovers
  omega

theorem toLower_eq_self {c : Char} (h : ¬(0x41 ≤ c.toNat ∧ c.toNat ≤ 0x5A)) : c.toLower = c := by
  refine dif_neg ?_
  rintro ⟨hfirst, hlast⟩
  exact h ⟨UInt32.le_iff_toNat_le.mp hfirst, UInt32.le_iff_toNat_le.mp hlast⟩

theorem lowerChar_of_ascii {c : Char} (h : c.toNat < 0x80) : lowerChar c = c.toLower := by
  have hruns : capitalRuns = ⟨0x41, 0x5A, 1, 32⟩ :: capitalRuns.tail := rfl
  have hlater : ∀ run ∈ capitalRuns.tail, 0x80 ≤ run.first := by decide +kernel
  have hletters : ∀ n < 0x5B, 0x41 ≤ n → (Char.ofNat n).toLower = Char.ofNat (n + 32) := by decide
  rw [lowerChar, hruns, List.find?_cons]
  by_cases hc : 0x41 ≤ c.toNat ∧ c.toNat ≤ 0x5A
  · have hcovers : CapitalRun.covers ⟨0x41, 0x5A, 1, 32⟩ c.toNat = true := by
      simp [CapitalRun.covers, hc.1, hc.2, Nat.mod_one]
    have hsmall := hletters c.toNat (by omega) hc.1
    rw [Char.ofNat_toNat] at hsmall
    rw [hcovers, hsmall]
    rfl
  · have hnone : capitalRuns.tail.find? (·.covers c.toNat) = none := by
      rw [List.find?_eq_none]
      intro run hrun
      have := hlater run hrun
      rw [covers_eq_false (Or.inl (by omega))]
      exact Bool.false_ne_true
    rw [covers_eq_false (by dsimp only; omega), hnone, toLower_eq_self hc]

theorem lower_of_ascii {t : Text} (h : ∀ c ∈ t, c.toNat < 0x80) : lower t = t.map Char.toLower := by
  have hafter : ∀ before, lowerAfter before t = t.map Char.toLower := by
    induction t with
    | nil => exact fun _ => rfl
    | cons c t ih =>
        intro before
        obtain ⟨hc, ht⟩ := List.forall_mem_cons.mp h
        have hsigma : c ≠ 'Σ' := by
          rintro rfl
          exact absurd hc (by decide)
        have hdotted : c ≠ 'İ' := by
          rintro rfl
          exact absurd hc (by decide)
        rw [lowerAfter, if_neg hsigma, if_neg hdotted, lowerChar_of_ascii hc, ih ht]
        rfl
  exact hafter []

/-- Only characters of ASCII have small letters of ASCII, where each stands for itself alone. -/
theorem toNat_of_toLower {c : Char} (h : c.toLower.toNat < 0x80) : c.toNat < 0x80 := by
  rcases Nat.lt_or_ge c.toNat 0x80 with hc | hc
  · exact hc
  · rwa [toLower_eq_self (by omega)] at h

theorem toNat_of_map_toLower {s t : Text} (h : s.map Char.toLower = t)
    (ht : ∀ c ∈ t, c.toNat < 0x80) : ∀ c ∈ s, c.toNat < 0x80 := fun _ hc =>
  toNat_of_toLower (ht _ (h ▸ List.mem_map_of_mem hc))

end LintReport.Text
