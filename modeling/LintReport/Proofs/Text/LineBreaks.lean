import LintReport.Disk

/-!
# Line breaks

Reading a file writes every line break as a line feed. A text without carriage returns is left as it
is, and a text in front of it changes nothing.
-/

namespace LintReport.Disk

@[simp] theorem unixLineBreaks_nil : unixLineBreaks [] = [] := by
  rw [unixLineBreaks]

theorem unixLineBreaks_cons {c : Char} (hc : c ≠ '\r') (t : Text) :
    unixLineBreaks (c :: t) = c :: unixLineBreaks t := by
  rw [unixLineBreaks]
  · exact fun _ h _ => hc h
  · exact hc

/-- A carriage return becomes a line feed, together with the line feed that may follow it. -/
theorem unixLineBreaks_return (t : Text) :
    ∃ rest, unixLineBreaks ('\r' :: t) = '\n' :: unixLineBreaks rest ∧
      (t = '\n' :: rest ∨ t = rest) := by
  match t with
  | [] => exact ⟨[], by simp [unixLineBreaks], Or.inr rfl⟩
  | c :: t =>
      by_cases hc : c = '\n'
      · subst hc
        exact ⟨t, by rw [unixLineBreaks], Or.inl rfl⟩
      · refine ⟨c :: t, ?_, Or.inr rfl⟩
        rw [unixLineBreaks]
        intro rest h
        exact hc (List.cons.inj h).1

theorem unixLineBreaks_append {a : Text} (ha : '\r' ∉ a) (t : Text) :
    unixLineBreaks (a ++ t) = a ++ unixLineBreaks t := by
  induction a with
  | nil => rfl
  | cons c a ih =>
      have hc : c ≠ '\r' := fun h => ha (by simp [h])
      have ha' : '\r' ∉ a := fun h => ha (List.mem_cons_of_mem _ h)
      rw [List.cons_append, unixLineBreaks_cons hc, ih ha', List.cons_append]

theorem unixLineBreaks_of_not_mem {t : Text} (h : '\r' ∉ t) : unixLineBreaks t = t := by
  simpa using unixLineBreaks_append h []

/-- A line feed stays a line break, also where it ends one that a carriage return began. -/
theorem unixLineBreaks_append_newline (a t : Text) :
    ∃ before, unixLineBreaks (a ++ '\n' :: t) = before ++ '\n' :: unixLineBreaks t := by
  fun_induction unixLineBreaks a with
  | case1 rest ih =>
      obtain ⟨before, h⟩ := ih
      exact ⟨'\n' :: before, by simp [unixLineBreaks, h]⟩
  | case2 rest hrest ih =>
      cases rest with
      | nil => exact ⟨[], by simp [unixLineBreaks]⟩
      | cons c rest =>
          obtain ⟨before, h⟩ := ih
          refine ⟨'\n' :: before, ?_⟩
          have hc : c ≠ '\n' := fun hc => hrest rest (by rw [hc])
          rw [List.cons_append, List.cons_append, unixLineBreaks]
          · rw [← List.cons_append, h, List.cons_append]
          · intro rest' h'
            exact hc (List.cons.inj h').1
  | case3 c rest hreturn hc ih =>
      obtain ⟨before, h⟩ := ih
      exact ⟨c :: before, by rw [List.cons_append, unixLineBreaks_cons hc, h, List.cons_append]⟩
  | case4 => exact ⟨[], by simp [unixLineBreaks]⟩

end LintReport.Disk
