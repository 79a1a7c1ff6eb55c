import LintReport.Text.Blank
import LintReport.Toml.Moment
import LintReport.Value.Basic

/-!
# Words of TOML

A value that is neither quoted nor bracketed is a word: a truth value, a number, a date or a time.
Integers are decimal, or hexadecimal, octal or binary after `0x`, `0o` or `0b`. A number has no
leading zero, and underscores stand singly and only inside of it, not beside the point.
-/

namespace LintReport.Toml

/-- Whether the digits after a sign have no leading zero. -/
def isUnpadded : Text → Bool
  | '0' :: c :: _ => c = '.'
  | _ => true

/-- Whether the underscores and leading zeros of a number stand where they may. -/
def isWellSpaced (t : Text) : Bool :=
  let t := Text.trim t
  let isPlaced : Bool := match t with
    | '0' :: c :: _ => ['.', 'o', 'b', 'x'].contains c
    | '+' :: t | '-' :: t => isUnpadded t
    | _ => true
  !t.isEmpty && t.head? ≠ some '_' && t.getLast? ≠ some '_' && !Text.hasInfix "_." t &&
    !Text.hasInfix "._" t && !Text.hasInfix "__" t && isPlaced

/-- Whether a number without a sign is written with a point or an exponent. -/
def isFractional (t : Text) : Bool :=
  t.contains '.' || (!t.contains 'x' && (t.contains 'e' || t.contains 'E'))

/-- The floating-point number that a text without a sign writes. It starts with a digit, and
something stands after the point. -/
def float? (t : Text) : Option Float := do
  guard (t.head?.any Decimal.isDigit)
  guard ((Text.breakAt (· = '.') t).2 ≠ ['.'])
  Decimal.readFloat? t

/-- The number that a text without underscores and without its sign writes. -/
def unsigned? (t : Text) : Option Value :=
  let lowered := t.map Char.toLower
  if isFractional t then (float? t).map .float
  else if lowered = "inf" then some (.float Decimal.infinity)
  else if lowered = "nan" then some (.float Decimal.notANumber)
  else (Decimal.readLiteral? t).map .int

def negated : Value → Value
  | .int n => .int (-n)
  | .float x => .float (0 - x)
  | v => v

def number? (t : Text) : Option Value :=
  let plain (t : Text) := t.filter (· ≠ '_')
  match t with
  | '-' :: t => (unsigned? (plain t)).map negated
  | '+' :: t => unsigned? (plain t)
  | t => unsigned? (plain t)

/-- The value that a word writes. Unless `isSpaced` holds it is no number. -/
def word (isSpaced : Bool) (t : Text) : Except Fault Value := do
  if t = "true" then return .bool true
  if t = "false" then return .bool false
  match timePrefix? t with
  | some time => if time.isValid then return .moment (.time time) else throw .malformed
  | none =>
    match ← date? t with
    | some moment => return .moment moment
    | none =>
      match number? t with
      | some v => if isSpaced then return v else throw .malformed
      | none => throw .malformed

end LintReport.Toml
