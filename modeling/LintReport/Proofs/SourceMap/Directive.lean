import LintReport.Proofs.Text.Split
import LintReport.Proofs.Text.Trim
import LintReport.SourceMap.Directive
import Mathlib.Data.List.TakeWhile

/-!
# The directives of a text made of parts

The directives of two texts with a line break between them are those of the first and those of the
second, if the second begins with a slash: the keyword of a directive may stand on a line of its own,
but its marker may not. So a directive on the last line is the last directive.
-/

namespace LintReport

namespace Text

theorem dropStart?_append_cons {start : Text} {c : Char} (hc : c ∉ start) (t rest : Text) :
    dropStart? start (t ++ c :: rest) = (dropStart? start t).map (· ++ c :: rest) := by
  induction start generalizing t with
  | nil => simp [dropStart?]
  | cons s start ih =>
      have hs : s ≠ c := fun h => hc (by simp [h])
      have hstart : c ∉ start := fun h => hc (List.mem_cons_of_mem _ h)
      cases t with
      | nil => simp [dropStart?, hs]
      | cons d t =>
          rw [List.cons_append, dropStart?, dropStart?]
          split
          · exact ih hstart t
          · rfl

/-- That a line ends at the front of a text. -/
def AtLineEnd (t : Text) : Prop :=
  t = [] ∨ ∃ rest, t = '\n' :: rest

theorem takeWhile_append_of_atLineEnd {rest : Text} (h : AtLineEnd rest) (t : Text) :
    (t ++ rest).takeWhile (· ≠ '\n') = t.takeWhile (· ≠ '\n') := by
  induction t with
  | nil => rcases h with rfl | ⟨rest, rfl⟩ <;> simp
  | cons c t ih => rw [List.cons_append, List.takeWhile_cons, List.takeWhile_cons, ih]

theorem dropWhile_append_of_atLineEnd {rest : Text} (h : AtLineEnd rest) (t : Text) :
    (t ++ rest).dropWhile (· ≠ '\n') = t.dropWhile (· ≠ '\n') ++ rest := by
  induction t with
  | nil => rcases h with rfl | ⟨rest, rfl⟩ <;> simp
  | cons c t ih =>
      rw [List.cons_append, List.dropWhile_cons, List.dropWhile_cons, ih]
      split <;> rfl

theorem atLineEnd_dropWhile (t : Text) : AtLineEnd (t.dropWhile (· ≠ '\n')) := by
  induction t with
  | nil => exact Or.inl rfl
  | cons c t ih =>
      by_cases hc : c = '\n'
      · subst hc
        exact Or.inr ⟨t, rfl⟩
      · rwa [List.dropWhile_cons_of_pos (by simpa using hc)]

end Text

namespace Directive

theorem values_of_body?_some {t body : Text} (h : body? t = some body) :
    values t = Text.trimEnd (body.takeWhile (· ≠ '\n')) :: values (body.dropWhile (· ≠ '\n')) := by
  cases t with
  | nil => simp [body?] at h
  | cons c rest =>
      rw [values]
      split
      · next body' hbody =>
          rw [h] at hbody
          rw [← Option.some.inj hbody]
      · next hbody =>
          rw [h] at hbody
          simp at hbody

theorem values_of_body?_none {c : Char} {rest : Text} (h : body? (c :: rest) = none) :
    values (c :: rest) = values rest := by
  rw [values]
  split
  · next body hbody =>
      rw [h] at hbody
      simp at hbody
  · rfl

theorem body?_of_marker {marker : Char} (hmarker : marker = '#' ∨ marker = '@') (rest : Text) :
    body? ('/' :: '/' :: marker :: rest) = Text.dropStart? keyword (Text.trimStart rest) := by
  rw [body?, if_pos hmarker]

theorem newline_blank : Text.isBlank '\n' = true := by decide

theorem slash_not_blank : Text.isBlank '/' = false := by decide

theorem newline_not_mem_keyword : '\n' ∉ keyword := by decide

/-- Whether a directive starts at the front of a text is decided before the line break, since a
slash after it begins no keyword. -/
theorem body?_append_newline (t after : Text) :
    body? (t ++ '\n' :: '/' :: after) = (body? t).map (· ++ '\n' :: '/' :: after) := by
  match t with
  | [] => simp [body?]
  | [c] => by_cases hc : c = '/' <;> simp [body?, hc]
  | [c, d] => by_cases hc : c = '/' <;> by_cases hd : d = '/' <;> simp [body?, hc, hd]
  | c :: d :: marker :: rest =>
      by_cases hc : c = '/'
      · by_cases hd : d = '/'
        · subst hc hd
          simp only [List.cons_append, body?]
          split
          · rw [Text.trimStart_append]
            split
            · next hblank =>
                rw [Text.trimStart_of_blank newline_blank,
                  Text.trimStart_of_not_blank slash_not_blank, hblank]
                rfl
            · exact Text.dropStart?_append_cons newline_not_mem_keyword _ _
          · rfl
        · simp [body?, hd]
      · simp [body?, hc]

theorem values_append_newline (t after : Text) :
    values (t ++ '\n' :: '/' :: after) = values t ++ values ('/' :: after) := by
  match t with
  | [] =>
      rw [List.nil_append, values_of_body?_none (by simp [body?])]
      simp [values]
  | c :: rest =>
      have hbody := body?_append_newline (c :: rest) after
      cases hfront : body? (c :: rest) with
      | none =>
          rw [hfront] at hbody
          rw [values_of_body?_none hfront]
          exact (values_of_body?_none hbody).trans (values_append_newline rest after)
      | some body =>
          rw [hfront] at hbody
          -- a value ends with its line, so the line break is met in what is left after it
          have hend : Text.AtLineEnd ('\n' :: '/' :: after) := Or.inr ⟨_, rfl⟩
          rw [values_of_body?_some hbody, values_of_body?_some hfront, List.cons_append,
            Text.takeWhile_append_of_atLineEnd hend, Text.dropWhile_append_of_atLineEnd hend,
            values_append_newline (body.dropWhile (· ≠ '\n')) after]
termination_by t.length
decreasing_by
  · simp
  · have hlt := body?_length_lt ‹body? (c :: rest) = some body›
    have hle := (List.dropWhile_sublist (l := body) (· ≠ '\n')).length_le
    exact Nat.lt_of_le_of_lt hle hlt

theorem values_append_of_blank {blanks : Text} (h : ∀ c ∈ blanks, Text.isBlank c = true)
    (t : Text) : values (blanks ++ t) = values t := by
  induction blanks with
  | nil => rfl
  | cons c blanks ih =>
      obtain ⟨hc, hblanks⟩ := List.forall_mem_cons.mp h
      have hslash : '/' ≠ c := Text.ne_of_isBlank hc slash_not_blank
      have hbody : body? (c :: (blanks ++ t)) = none := by
        rw [body?]
        rintro marker rest heq
        exact hslash (List.cons.inj heq).1.symm
      rw [List.cons_append, values_of_body?_none hbody, ih hblanks]

variable {marker : Char} {blanks value after rest : Text}

/-- What follows the keyword of a directive, behind any blanks between marker and keyword. -/
theorem body?_directive (hmarker : marker = '#' ∨ marker = '@')
    (hblanks : ∀ c ∈ blanks, Text.isBlank c = true) (body : Text) :
    body? ('/' :: '/' :: marker :: (blanks ++ (keyword ++ body))) = some body := by
  have hkeyword : keyword ++ body = 's' :: ("ourceMappingURL=".toList ++ body) := rfl
  have hnone : Text.trimStart blanks = [] := List.dropWhile_eq_nil_iff.mpr hblanks
  rw [body?_of_marker hmarker, Text.trimStart_append, if_pos hnone, hkeyword,
    Text.trimStart_of_not_blank (by decide), ← hkeyword, Text.dropStart?_append]

/-- A directive gives its value without the blanks after it, also where these run on over the end of
its line. -/
theorem values_directive (hmarker : marker = '#' ∨ marker = '@')
    (hblanks : ∀ c ∈ blanks, Text.isBlank c = true) (hbreak : '\n' ∉ value)
    (hvalue : Text.trimEnd value = value) (hafter : ∀ c ∈ after, Text.isBlank c = true)
    (hrest : Text.AtLineEnd rest) :
    values ('/' :: '/' :: marker :: (blanks ++ (keyword ++ (value ++ (after ++ rest))))) =
      value :: values rest := by
  have hline : ∀ c ∈ value, (c ≠ '\n' : Bool) = true := by
    intro c hc
    simp only [ne_eq, decide_not, Bool.not_eq_true', decide_eq_false_iff_not]
    exact fun h => hbreak (h ▸ hc)
  rw [values_of_body?_some (body?_directive hmarker hblanks _), ← List.append_assoc,
    Text.takeWhile_append_of_atLineEnd hrest, Text.dropWhile_append_of_atLineEnd hrest,
    List.takeWhile_append_of_pos hline, List.dropWhile_append_of_pos hline,
    Text.trimEnd_append_of_blank _ fun c hc => hafter c (List.takeWhile_subset _ hc), hvalue,
    values_append_of_blank fun c hc => hafter c (List.dropWhile_subset _ hc)]

/-- A directive behind which no other one starts gives the answer, whatever stands on the lines
before. -/
theorem find?_of_values_eq_nil (hmarker : marker = '#' ∨ marker = '@')
    (hblanks : ∀ c ∈ blanks, Text.isBlank c = true) (hbreak : '\n' ∉ value)
    (hvalue : Text.trimEnd value = value) (hafter : ∀ c ∈ after, Text.isBlank c = true)
    (hrest : Text.AtLineEnd rest) (hnone : values rest = []) (before : Text) :
    find? (before ++ '\n' ::
        '/' :: '/' :: marker :: (blanks ++ (keyword ++ (value ++ (after ++ rest))))) =
      if value = [] then none else some value := by
  unfold find?
  rw [values_append_newline, values_directive hmarker hblanks hbreak hvalue hafter hrest, hnone,
    List.getLast?_concat]
  cases value with
  | nil => rfl
  | cons c value => rfl

/-- A directive on the last line of a text gives its value, whatever stands on the lines before. -/
theorem find?_last_line {value : Text} (hne : value ≠ []) (hbreak : '\n' ∉ value)
    (hblank : Text.trimEnd value = value) (before : Text) :
    find? (before ++ '\n' :: '/' :: '/' :: '#' :: ' ' :: (keyword ++ value)) = some value := by
  have hspace : ∀ c ∈ [' '], Text.isBlank c = true := List.forall_mem_singleton.mpr (by decide)
  have hfind := @find?_of_values_eq_nil '#' [' '] value [] [] (Or.inl rfl) hspace hbreak hblank
    (by simp) (Or.inl rfl) (by simp [values]) before
  rw [if_neg hne, List.append_nil, List.append_nil] at hfind
  exact hfind

end Directive

end LintReport
