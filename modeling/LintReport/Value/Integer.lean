import LintReport.Value.Basic

/-!
# Integers from values

Where an integer is asked for, a number is cut toward zero and a text is read as a decimal.
-/

namespace LintReport.Value

inductive IntegerFault where
  /-- The value is neither a number nor a text. -/
  | wrongKind
  /-- The text writes no integer, or the number has no value. -/
  | unreadable
  /-- The number is infinite. -/
  | infinite
  deriving DecidableEq

def Number.truncate : Number → Except IntegerFault Int
  | int n => .ok n
  | float .nan => .error .unreadable
  | float (.infinite _) => .error .infinite
  | float (.finite negative significand exponent) =>
    let (num, den) := Decimal.Binary64.fraction negative significand exponent
    .ok (num.tdiv den)

def toInt (v : Value) : Except IntegerFault Int :=
  match v with
  | str s =>
    match Decimal.readInt? s with
    | some n => .ok n
    | none => .error .unreadable
  | v =>
    match v.number? with
    | some x => x.truncate
    | none => .error .wrongKind

end LintReport.Value
