import LintReport.Text.Blank
import Mathlib.Data.List.TakeWhile

/-!
# Trimming

What is cut off at the end of a text made of two parts is cut off the second part, and if nothing of
that remains, off the first part too. Nothing remains of a text only if it is all blanks.
-/

namespace LintReport.Text

variable {p : Char → Bool}

theorem dropEndWhile_append (a b : Text) :
    dropEndWhile p (a ++ b) =
      if dropEndWhile p b = [] then dropEndWhile p a else a ++ dropEndWhile p b := by
  induction a with
  | nil =>
      by_cases hb : dropEndWhile p b = []
      · simp [hb, dropEndWhile]
      · simp [hb]
  | cons c a ih =>
      rw [List.cons_append, dropEndWhile, ih]
      by_cases hb : dropEndWhile p b = []
      · rw [if_pos hb, if_pos hb, dropEndWhile]
      · rw [if_neg hb, if_neg hb]
        split
        · next hnil => simp [hb] at hnil
        · rfl

theorem dropEndWhile_of_getLast? {t : Text} (h : ∀ c, t.getLast? = some c → p c = false) :
    dropEndWhile p t = t := by
  cases hlast : t.getLast? with
  | none => rw [List.getLast?_eq_none_iff.mp hlast, dropEndWhile]
  | some c =>
      obtain ⟨init, rfl⟩ := List.getLast?_eq_some_iff.mp hlast
      have hc : dropEndWhile p [c] = [c] := by simp [dropEndWhile, h c hlast]
      rw [dropEndWhile_append, hc, if_neg (by simp)]

theorem mem_of_mem_dropEndWhile {c : Char} {t : Text} (h : c ∈ dropEndWhile p t) : c ∈ t := by
  induction t with
  | nil => simp [dropEndWhile] at h
  | cons d t ih =>
      rw [dropEndWhile] at h
      split at h
      · split at h
        · simp at h
        · rw [List.mem_singleton] at h
          simp [h]
      · rw [List.mem_cons] at h
        rcases h with rfl | h
        · simp
        · exact List.mem_cons_of_mem d (ih h)

theorem dropEndWhile_dropEndWhile (t : Text) :
    dropEndWhile p (dropEndWhile p t) = dropEndWhile p t := by
  induction t with
  | nil => rfl
  | cons c t ih =>
      rw [dropEndWhile]
      split
      · by_cases hc : p c = true
        · rw [if_pos hc, dropEndWhile]
        · rw [if_neg hc, dropEndWhile, dropEndWhile, if_neg hc]
      · next hne =>
          rw [dropEndWhile, ih]
          split
          · next hnil => exact absurd hnil hne
          · rfl

theorem dropEndWhile_append_congr (a : Text) {b b' : Text}
    (h : dropEndWhile p b = dropEndWhile p b') :
    dropEndWhile p (a ++ b) = dropEndWhile p (a ++ b') := by
  rw [dropEndWhile_append, dropEndWhile_append, h]

theorem trimEnd_append_of_ne_nil (a : Text) {b : Text} (h : trimEnd b ≠ []) :
    trimEnd (a ++ b) = a ++ trimEnd b := by
  unfold trimEnd at h ⊢
  rw [dropEndWhile_append, if_neg h]

theorem trimEnd_append_ne_nil {a : Text} (h : trimEnd a ≠ []) (b : Text) :
    trimEnd (a ++ b) ≠ [] := by
  unfold trimEnd at h ⊢
  rw [dropEndWhile_append]
  split
  · exact h
  · next hb => exact fun heq => hb (List.append_eq_nil_iff.mp heq).2

/-- A text that does not end in a blank is not trimmed. -/
theorem trimEnd_of_getLast? {t : Text} (h : ∀ c, t.getLast? = some c → isBlank c = false) :
    trimEnd t = t :=
  dropEndWhile_of_getLast? h

theorem forall_of_dropEndWhile_eq_nil {t : Text} (h : dropEndWhile p t = []) :
    ∀ c ∈ t, p c = true := by
  induction t with
  | nil => simp
  | cons d t ih =>
      rw [dropEndWhile] at h
      split at h
      · next hrest =>
          split at h
          · next hd => exact List.forall_mem_cons.mpr ⟨hd, ih hrest⟩
          · cases h
      · cases h

/-- Nothing remains of a text only if it is all blanks. -/
theorem forall_isBlank_of_trim {t : Text} (h : trim t = []) : ∀ c ∈ t, isBlank c = true := by
  have hblank := forall_of_dropEndWhile_eq_nil h
  -- what begins with no blank is blank all the same, so it is empty
  have hstart : trimStart t = [] := by
    unfold trimStart at hblank ⊢
    cases hdrop : t.dropWhile isBlank with
    | nil => rfl
    | cons c rest =>
        have hhead := List.head_dropWhile_not isBlank (l := t) (by simp [hdrop])
        rw [hblank _ (List.head_mem _)] at hhead
        cases hhead
  intro c hc
  have hall : t.takeWhile isBlank ++ trimStart t = t := List.takeWhile_append_dropWhile
  rw [hstart, List.append_nil] at hall
  rw [← hall] at hc
  exact List.mem_takeWhile_imp hc

theorem toNat_of_isBlank {c : Char} (h : isBlank c = true) :
    c.toNat ≤ 0x20 ∨ 0x85 ≤ c.toNat := by
  simp only [isBlank, blankRanges, List.any_cons, List.any_nil, Bool.or_eq_true,
    decide_eq_true_eq, Bool.false_eq_true, or_false] at h
  omega

theorem ne_of_isBlank {c d : Char} (hc : isBlank c = true) (hd : isBlank d = false) : d ≠ c := by
  rintro rfl
  rw [hc] at hd
  cases hd

/-- A text whose last character is no blank does not end in one. -/
theorem isBlank_of_getLast? {t : Text} {last : Char} (hlast : t.getLast? = some last)
    (h : isBlank last = false) : ∀ c, t.getLast? = some c → isBlank c = false := by
  intro c hc
  rw [hlast] at hc
  rwa [← Option.some.inj hc]

theorem dropEndWhile_eq_nil {t : Text} (h : ∀ c ∈ t, p c = true) : dropEndWhile p t = [] := by
  induction t with
  | nil => rfl
  | cons c t ih =>
      rw [List.forall_mem_cons] at h
      rw [dropEndWhile, ih h.2]
      exact if_pos h.1

theorem trimEnd_append_of_blank (t : Text) {x : Text} (h : ∀ c ∈ x, isBlank c = true) :
    trimEnd (t ++ x) = trimEnd t := by
  unfold trimEnd
  rw [dropEndWhile_append, if_pos (dropEndWhile_eq_nil h)]

theorem not_mem_trimEnd {c : Char} {t : Text} (h : c ∉ t) : c ∉ trimEnd t := fun hmem =>
  h (mem_of_mem_dropEndWhile hmem)

/-- Trimming cuts off blanks only. -/
theorem exists_trimEnd_append (t : Text) :
    ∃ blanks : Text, trimEnd t ++ blanks = t ∧ ∀ c ∈ blanks, isBlank c = true := by
  unfold trimEnd
  induction t with
  | nil => exact ⟨[], rfl, nofun⟩
  | cons c t ih =>
      obtain ⟨blanks, ht, hblanks⟩ := ih
      rw [dropEndWhile]
      split
      · next hnil =>
          rw [hnil, List.nil_append] at ht
          split
          · next hc => exact ⟨c :: t, rfl, List.forall_mem_cons.mpr ⟨hc, ht ▸ hblanks⟩⟩
          · exact ⟨t, rfl, ht ▸ hblanks⟩
      · exact ⟨blanks, by rw [List.cons_append, ht], hblanks⟩

theorem trimEnd_prefix (t : Text) : trimEnd t <+: t := by
  obtain ⟨blanks, ht, -⟩ := exists_trimEnd_append t
  exact ⟨blanks, ht⟩

/-- What is left by trimming does not end in a blank. -/
theorem isBlank_of_getLast?_trimEnd (t : Text) :
    ∀ c, (trimEnd t).getLast? = some c → isBlank c = false := by
  intro c hlast
  obtain ⟨init, hinit⟩ := List.getLast?_eq_some_iff.mp hlast
  cases hc : isBlank c with
  | false => rfl
  | true =>
      have hagain : trimEnd init = init ++ [c] := by
        rw [← trimEnd_append_of_blank init (x := [c]) (by simpa using hc), ← hinit]
        exact dropEndWhile_dropEndWhile t
      have hle := (hagain ▸ trimEnd_prefix init).length_le
      rw [List.length_append, List.length_singleton] at hle
      omega

/-- Trimming is told by what it leaves: only blanks are missing at the end, and it does not end in
one. -/
theorem trimEnd_eq_iff {t kept : Text} :
    trimEnd t = kept ↔
      (∃ blanks : Text, kept ++ blanks = t ∧ ∀ c ∈ blanks, isBlank c = true) ∧
        ∀ c, kept.getLast? = some c → isBlank c = false := by
  constructor
  · rintro rfl
    exact ⟨exists_trimEnd_append t, isBlank_of_getLast?_trimEnd t⟩
  · rintro ⟨⟨blanks, rfl, hblanks⟩, hlast⟩
    rw [trimEnd_append_of_blank kept hblanks, trimEnd_of_getLast? hlast]

theorem prefix_trimEnd {t : Text} (hend : ∀ c, t.getLast? = some c → isBlank c = false) (x : Text) :
    t <+: trimEnd (t ++ x) := by
  unfold trimEnd
  rw [dropEndWhile_append]
  split
  · exact ⟨[], by rw [List.append_nil, dropEndWhile_of_getLast? hend]⟩
  · exact List.prefix_append ..

/-- Cutting blanks at the front stops in the first text, unless that is blank throughout. -/
theorem trimStart_append (t rest : Text) :
    trimStart (t ++ rest) =
      if trimStart t = [] then trimStart rest else trimStart t ++ rest := by
  unfold trimStart
  induction t with
  | nil => simp
  | cons c t ih =>
      cases hc : isBlank c with
      | true => simpa [hc] using ih
      | false => simp [hc]

theorem trimStart_of_blank {c : Char} (hc : isBlank c = true) (rest : Text) :
    trimStart (c :: rest) = trimStart rest := by
  simp [trimStart, hc]

theorem trimStart_of_not_blank {c : Char} (hc : isBlank c = false) (rest : Text) :
    trimStart (c :: rest) = c :: rest := by
  simp [trimStart, hc]

theorem isBlank_of_visible {c : Char} (h : 0x21 ≤ c.toNat ∧ c.toNat < 0x7F) :
    isBlank c = false := by
  simp only [isBlank, blankRanges, List.any_cons, List.any_nil, Bool.or_false,
    Bool.or_eq_false_iff, decide_eq_false_iff_not]
  omega

theorem trim_of_not_blank {t : Text} (h : ∀ c ∈ t, isBlank c = false) : trim t = t := by
  have hstart : trimStart t = t := by
    cases t with
    | nil => rfl
    | cons c t => simp [trimStart, h c (by simp)]
  rw [trim, hstart]
  exact trimEnd_of_getLast? fun c hc => h c (List.mem_of_getLast? hc)

/-- Blanks on both sides of a text are cut off with its own. -/
theorem trim_between_blanks {front back : Text} (hfront : ∀ c ∈ front, isBlank c = true)
    (hback : ∀ c ∈ back, isBlank c = true) (t : Text) : trim (front ++ t ++ back) = trim t := by
  have hfront' : trimStart front = [] := List.dropWhile_eq_nil_iff.mpr hfront
  have hback' : trimStart back = [] := List.dropWhile_eq_nil_iff.mpr hback
  rw [List.append_assoc, trim, trimStart_append, if_pos hfront', trimStart_append, trim]
  split
  · next ht => rw [hback', ht]
  · exact trimEnd_append_of_blank _ hback

end LintReport.Text
