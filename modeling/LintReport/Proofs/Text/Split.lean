import LintReport.Text.Basic

/-!
# Splitting and joining

Pieces without the separator come back from splitting what was joined. A text is split piece by
piece from the left: up to its first separator, and from there on.
-/

namespace LintReport.Text

variable {sep : Char}

theorem split_of_not_mem {t : Text} (h : sep ∉ t) : split sep t = [t] := by
  induction t with
  | nil => rfl
  | cons c rest ih =>
      have hc : c ≠ sep := fun heq => h (by simp [heq])
      have hrest : sep ∉ rest := fun hmem => h (by simp [hmem])
      rw [split, if_neg hc, ih hrest]

theorem split_append_separator (a b : Text) :
    split sep (a ++ sep :: b) = split sep a ++ split sep b := by
  induction a with
  | nil => simp [split]
  | cons c a ih =>
      rw [List.cons_append, split, split]
      by_cases hc : c = sep
      · rw [if_pos hc, if_pos hc, ih, List.cons_append]
      · rw [if_neg hc, if_neg hc, ih]
        cases hpieces : split sep a with
        | nil => exact absurd hpieces (split_ne_nil sep a)
        | cons piece pieces => rfl

theorem split_append_cons {t : Text} (h : sep ∉ t) (rest : Text) :
    split sep (t ++ sep :: rest) = t :: split sep rest := by
  rw [split_append_separator, split_of_not_mem h, List.singleton_append]

/-- What stands before the first separator belongs to the first piece. -/
theorem split_append_of_not_mem {a : Text} (h : sep ∉ a) {t piece : Text} {pieces : List Text}
    (ht : split sep t = piece :: pieces) : split sep (a ++ t) = (a ++ piece) :: pieces := by
  induction a with
  | nil => exact ht
  | cons c a ih =>
      have hc : c ≠ sep := fun heq => h (by simp [heq])
      have ha : sep ∉ a := fun hmem => h (by simp [hmem])
      rw [List.cons_append, split, if_neg hc, ih ha]
      rfl

theorem not_mem_of_mem_split {t piece : Text} (h : piece ∈ split sep t) : sep ∉ piece := by
  induction t generalizing piece with
  | nil => simp_all [split]
  | cons c rest ih =>
      rw [split] at h
      split at h
      · rcases List.mem_cons.mp h with rfl | h
        · simp
        · exact ih h
      · next hc =>
          cases hpieces : split sep rest with
          | nil => exact absurd hpieces (split_ne_nil sep rest)
          | cons first pieces =>
              rw [hpieces] at h ih
              rcases List.mem_cons.mp h with rfl | h
              · have hfirst := ih List.mem_cons_self
                simp [hfirst, Ne.symm hc]
              · exact ih (List.mem_cons_of_mem _ h)

theorem split_join {pieces : List Text} (hne : pieces ≠ []) (h : ∀ piece ∈ pieces, sep ∉ piece) :
    split sep (join [sep] pieces) = pieces := by
  induction pieces with
  | nil => exact absurd rfl hne
  | cons piece rest ih =>
      have hpiece : sep ∉ piece := h piece (by simp)
      cases rest with
      | nil => rw [join, split_of_not_mem hpiece]
      | cons next rest =>
          have hrest : ∀ p ∈ next :: rest, sep ∉ p := fun p hp => h p (List.mem_cons_of_mem _ hp)
          rw [join, List.append_assoc, List.singleton_append, split_append_cons hpiece,
            ih (by simp) hrest]

theorem exists_join_cons (separator piece : Text) (pieces : List Text) :
    ∃ rest, join separator (piece :: pieces) = piece ++ rest := by
  cases pieces with
  | nil => exact ⟨[], (List.append_nil piece).symm⟩
  | cons next pieces => exact ⟨_, List.append_assoc ..⟩

theorem join_append {separator : Text} {pieces later : List Text} (hne : pieces ≠ [])
    (hlater : later ≠ []) :
    join separator (pieces ++ later) =
      join separator pieces ++ separator ++ join separator later := by
  induction pieces with
  | nil => exact absurd rfl hne
  | cons piece pieces ih =>
      cases pieces with
      | nil =>
          obtain ⟨next, later, rfl⟩ := List.exists_cons_of_ne_nil hlater
          rfl
      | cons next pieces =>
          show piece ++ separator ++ join separator (next :: pieces ++ later) = _
          rw [ih (List.cons_ne_nil next pieces), join]
          simp only [List.append_assoc]

theorem join_concat {separator : Text} {pieces : List Text} (hne : pieces ≠ []) (piece : Text) :
    join separator (pieces ++ [piece]) = join separator pieces ++ separator ++ piece :=
  join_append hne (List.cons_ne_nil piece [])

theorem join_suffix {separator : Text} {pieces : List Text} (hne : pieces ≠ [])
    (before : List Text) : join separator pieces <:+ join separator (before ++ pieces) := by
  cases before with
  | nil => exact List.suffix_rfl
  | cons first before =>
      rw [join_append (List.cons_ne_nil first before) hne]
      exact List.suffix_append ..

/-- What stands before a piece is as long as the pieces before it with their separators. -/
theorem exists_join_drop (separator : Text) {pieces : List Text} {j : Nat} (h : j < pieces.length) :
    ∃ before : Text,
      before.length = (pieces.take j).flatten.length + j * separator.length ∧
        before ++ join separator (pieces.drop j) = join separator pieces := by
  induction j generalizing pieces with
  | zero => exact ⟨[], by simp, rfl⟩
  | succ j ih =>
      cases pieces with
      | nil => cases h
      | cons piece pieces =>
          have hj : j < pieces.length := Nat.lt_of_succ_lt_succ h
          obtain ⟨before, hlength, hjoin⟩ := ih hj
          obtain ⟨next, later, rfl⟩ := List.exists_cons_of_length_pos (Nat.zero_lt_of_lt hj)
          refine ⟨piece ++ separator ++ before, ?_, ?_⟩
          · rw [List.length_append, List.length_append, hlength, List.take_succ_cons,
              List.flatten_cons, List.length_append, Nat.succ_mul]
            omega
          · rw [List.append_assoc, List.drop_succ_cons, hjoin]
            rfl

theorem not_mem_join {c : Char} {separator : Text} {pieces : List Text} (hsep : c ∉ separator)
    (h : ∀ piece ∈ pieces, c ∉ piece) : c ∉ join separator pieces := by
  induction pieces with
  | nil => simp [join]
  | cons piece rest ih =>
      have hpiece : c ∉ piece := h piece (by simp)
      cases rest with
      | nil => simpa [join] using hpiece
      | cons next rest =>
          have hrest := ih fun p hp => h p (List.mem_cons_of_mem _ hp)
          simp only [join, List.mem_append, not_or]
          exact ⟨⟨hpiece, hsep⟩, hrest⟩

end LintReport.Text
