import LintReport.Lint.FileReport
import LintReport.Proofs.Result

/-!
# Reports that are not understood

A list of messages, or of files, fails at the first that is not understood. An infinite severity is
a fault of its own; it arises in one way alone, from an infinite number in a message in which all
that is looked at before it is in order.
-/

namespace LintReport

/-! ## Infinite numbers -/

def Value.IsInfinite (v : Value) : Prop :=
  ∃ x negative, v = .float x ∧ Decimal.Binary64.ofFloat x = .infinite negative

theorem Value.Number.truncate_eq_infinite_iff {n : Number} :
    n.truncate = .error .infinite ↔ ∃ negative, n = .float (.infinite negative) := by
  cases n with
  | int n => simp [truncate]
  | float x => cases x <;> simp [truncate]

theorem Value.toInt_eq_infinite_iff {v : Value} :
    v.toInt = .error .infinite ↔ v.IsInfinite := by
  unfold toInt IsInfinite
  cases v with
  | str s =>
      dsimp only
      split <;> simp
  | float x => simp [number?, Number.truncate_eq_infinite_iff]
  | bool b => simp [number?, Number.truncate]
  | int n => simp [number?, Number.truncate]
  | null => simp [number?]
  | list xs => simp [number?]
  | map entries => simp [number?]
  | bytes bs => simp [number?]
  | moment m => simp [number?]
  | set xs => simp [number?]
  | pair first second => simp [number?]
  | enclosing isMap => simp [number?]

/-- An infinite number counts as true, so no other value takes its place. -/
theorem Value.orElse_toInt_eq_infinite_iff {v : Value} {n : Int} :
    (v.orElse (.int n)).toInt = .error .infinite ↔ v.IsInfinite := by
  rw [toInt_eq_infinite_iff, orElse]
  split
  · rfl
  · next hfalse =>
      constructor
      · rintro ⟨x, negative, hint, -⟩
        cases hint
      · rintro ⟨x, negative, rfl, hx⟩
        simp [truthy, hx, Decimal.Binary64.isZero] at hfalse

/-! ## Messages -/

namespace Diagnostic

/-- A message with a text and an infinite severity. -/
inductive InfinitelySevere : Value → Prop where
  | map {entries : List (Value × Value)} {message : Value} {text : Text}
      (hmessage : Value.named? "message" entries = some message)
      (htext : message.text? = some text)
      (hseverity : (Value.namedD entries "severity").IsInfinite) :
      InfinitelySevere (.map entries)

theorem ofFields_eq_infinite_iff {entries : List (Value × Value)} {message : Value} :
    ofFields entries message = .error (.severity .infinite) ↔
      (∃ text, message.text? = some text) ∧ (Value.namedD entries "severity").IsInfinite := by
  rw [← Value.orElse_toInt_eq_infinite_iff (n := 0)]
  unfold ofFields
  cases message.text? with
  | none => simp
  | some text =>
      dsimp only
      generalize ((Value.namedD entries "severity").orElse (.int 0)).toInt = severity
      cases severity <;> simp

theorem ofValue_eq_infinite_iff {v : Value} :
    ofValue v = .error (.severity .infinite) ↔ InfinitelySevere v := by
  constructor
  · intro h
    unfold ofValue at h
    split at h
    · split at h
      · cases h
      · next hmessage =>
          obtain ⟨⟨text, htext⟩, hseverity⟩ := ofFields_eq_infinite_iff.mp h
          exact .map hmessage htext hseverity
    · cases h
  · rintro ⟨hmessage, htext, hseverity⟩
    rw [ofValue, hmessage]
    exact ofFields_eq_infinite_iff.mpr ⟨⟨_, htext⟩, hseverity⟩

theorem ofValues_eq_mapM (values : List Value) : ofValues values = values.mapM ofValue := by
  apply eq_mapM_of_cons (g := ofValues) rfl
  intro v rest
  rw [ofValues]
  cases ofValue v <;> rfl

end Diagnostic

/-! ## Files -/

namespace FileReport

/-- A file with a path and with a message that is infinitely severe, where all messages before it
are understood. -/
inductive InfinitelySevere : Value → Prop where
  | map {entries : List (Value × Value)} {before after : List Value} {message : Value}
      (hpath : pathOf entries ≠ .null)
      (hmessages : ((Value.namedD entries "messages").orElse (.list [])).elements? =
        some (before ++ message :: after))
      (hbefore : ∀ v ∈ before, ∃ d, Diagnostic.ofValue v = .ok d)
      (hmessage : Diagnostic.InfinitelySevere message) :
      InfinitelySevere (.map entries)

theorem ofFields_eq_infinite_iff {entries : List (Value × Value)} {path : Value} :
    ofFields entries path = .error (.severity .infinite) ↔
      ∃ before message after,
        ((Value.namedD entries "messages").orElse (.list [])).elements? =
          some (before ++ message :: after) ∧
        (∀ v ∈ before, ∃ d, Diagnostic.ofValue v = .ok d) ∧
        Diagnostic.InfinitelySevere message := by
  have hfirst : ∀ messages, Diagnostic.ofValues messages = .error (.severity .infinite) ↔ _ :=
    fun messages => (Diagnostic.ofValues_eq_mapM messages) ▸ mapM_eq_error_iff
  simp only [Diagnostic.ofValue_eq_infinite_iff] at hfirst
  unfold ofFields
  cases ((Value.namedD entries "messages").orElse (.list [])).elements? with
  | none => simp
  | some messages =>
      simp only [Option.some.injEq]
      rw [← hfirst]
      cases Diagnostic.ofValues messages with
      | error fault => simp
      | ok diagnostics => cases path.text? <;> simp

theorem ofValue_eq_infinite_iff {v : Value} :
    ofValue v = .error (.severity .infinite) ↔ InfinitelySevere v := by
  constructor
  · intro h
    unfold ofValue at h
    split at h
    · split at h
      · cases h
      · next hpath =>
          obtain ⟨before, message, after, hmessages, hbefore, hmessage⟩ :=
            ofFields_eq_infinite_iff.mp h
          exact .map hpath hmessages hbefore hmessage
    · cases h
  · rintro ⟨hpath, hmessages, hbefore, hmessage⟩
    rw [ofValue]
    split
    · next hnull => exact absurd hnull hpath
    · exact ofFields_eq_infinite_iff.mpr ⟨_, _, _, hmessages, hbefore, hmessage⟩

theorem ofValues_eq_mapM (values : List Value) : ofValues values = values.mapM ofValue := by
  apply eq_mapM_of_cons (g := ofValues) rfl
  intro v rest
  rw [ofValues]
  cases ofValue v <;> rfl

/-- A list of files fails at an infinite severity if one of them does and all before it are
understood. -/
theorem ofValues_eq_infinite_iff {files : List Value} :
    ofValues files = .error (.severity .infinite) ↔
      ∃ before file after, files = before ++ file :: after ∧
        (∀ v ∈ before, ∃ r, ofValue v = .ok r) ∧ InfinitelySevere file := by
  rw [ofValues_eq_mapM, mapM_eq_error_iff]
  simp only [ofValue_eq_infinite_iff]

theorem ofValues_append {xs ys : List Value} {first second : List FileReport}
    (hx : ofValues xs = .ok first) (hy : ofValues ys = .ok second) :
    ofValues (xs ++ ys) = .ok (first ++ second) := by
  rw [ofValues_eq_mapM] at hx hy ⊢
  rw [List.mapM_append, hx, hy]
  rfl

end FileReport

end LintReport
