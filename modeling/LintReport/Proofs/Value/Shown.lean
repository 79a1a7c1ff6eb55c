import LintReport.Proofs.Result
import LintReport.Value.Shown

/-!
# Texts of values

Every value but the empty text has a text of at least one character, if it has a text at all.
-/

namespace LintReport

/-! ## Numbers and moments -/

theorem Decimal.intText_ne_nil (n : Int) : intText n ≠ [] := by
  unfold intText
  split
  · exact List.cons_ne_nil _ _
  · exact Nat.toDigits_ne_nil

theorem Decimal.Scientific.text_ne_nil (format : Notation) (s : Scientific) :
    s.text format ≠ [] := by
  -- a point or the letter of the exponent stands in it, wherever the digits are
  unfold Scientific.text
  dsimp only
  split
  · split
    · simp
    · split <;> simp
  · simp

theorem Decimal.floatText_ne_nil (x : Float) : floatText x ≠ [] := by
  unfold floatText
  split
  · simp
  · split <;> simp
  · dsimp only
    split
    · exact List.cons_ne_nil _ _
    · split
      · simp
      · exact Scientific.text_ne_nil _ _

theorem Calendar.Moment.ne_nil_of_text? {m : Moment} {t : Text} (h : m.text? = some t) :
    t ≠ [] := by
  cases m with
  | day d =>
      obtain rfl := Option.some.inj h
      simp [Date.text]
  | time time =>
      obtain rfl := Option.some.inj h
      simp [Time.text]
  | both d time offset =>
      cases offset with
      | none =>
          obtain rfl := Option.some.inj h
          simp
      | some offset =>
          rw [text?] at h
          split at h
          · obtain rfl := Option.some.inj h
            simp
          · cases h

theorem Calendar.Moment.description_ne_nil (m : Moment) : m.description ≠ [] := by
  cases m <;> simp [description, applied]

/-! ## Values -/

namespace Value

theorem ne_nil_of_shown? {v : Value} {t : Text} (h : v.shown? = some t) : t ≠ [] := by
  cases v with
  | null | str | bytes =>
      obtain rfl := Option.some.inj h
      exact List.cons_ne_nil _ _
  | bool b =>
      obtain rfl := Option.some.inj h
      cases b <;> exact List.cons_ne_nil _ _
  | int n =>
      rw [shown?, Decimal.intText?] at h
      split at h
      · obtain rfl := Option.some.inj h
        exact Decimal.intText_ne_nil n
      · cases h
  | float x =>
      obtain rfl := Option.some.inj h
      exact Decimal.floatText_ne_nil x
  | moment m =>
      obtain rfl := Option.some.inj h
      exact m.description_ne_nil
  | list xs =>
      rw [shown?_list] at h
      obtain ⟨texts, -, rfl⟩ := Option.map_eq_some_iff.mp h
      exact List.cons_ne_nil _ _
  | map entries =>
      rw [shown?_map] at h
      obtain ⟨texts, -, rfl⟩ := Option.map_eq_some_iff.mp h
      exact List.cons_ne_nil _ _
  | set xs =>
      cases xs with
      | nil =>
          rw [shown?] at h
          obtain rfl := Option.some.inj h
          exact List.cons_ne_nil _ _
      | cons x xs =>
          rw [shown?] at h
          obtain ⟨text, -, h⟩ := Option.bind_eq_some_iff.mp h
          obtain ⟨texts, -, h⟩ := Option.bind_eq_some_iff.mp h
          obtain rfl := Option.some.inj h
          exact List.cons_ne_nil _ _
  | pair x y =>
      rw [shown?] at h
      obtain ⟨first, -, h⟩ := Option.bind_eq_some_iff.mp h
      obtain ⟨second, -, h⟩ := Option.bind_eq_some_iff.mp h
      obtain rfl := Option.some.inj h
      exact List.cons_ne_nil _ _
  | enclosing isMap =>
      rw [shown?] at h
      obtain rfl := Option.some.inj h
      cases isMap <;> exact List.cons_ne_nil _ _

/-- The empty text is the only value with an empty text. -/
theorem text?_eq_nil_iff {v : Value} : v.text? = some [] ↔ v = .str [] := by
  constructor
  · intro h
    cases v with
    | str s => rw [Option.some.inj h]
    | moment m => exact absurd rfl (Calendar.Moment.ne_nil_of_text? h)
    | _ => exact absurd rfl (ne_nil_of_shown? h)
  · rintro rfl
    rfl

end Value

end LintReport
