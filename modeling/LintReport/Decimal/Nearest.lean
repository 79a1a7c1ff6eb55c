import LintReport.Decimal.Integer
import LintReport.Decimal.Radix

/-!
# The nearest floating-point number

A decimal is read as the floating-point number nearest to it. Exponents that leave the range of the
numbers are recognised by the position of the decimal point before any power of ten is formed. In
free form a number may also be infinite or not a number.
-/

namespace LintReport.Decimal

def infinity : Float :=
  Float.ofBits 0x7FF0000000000000

def notANumber : Float :=
  Float.ofBits 0x7FF8000000000000

/-- The number nearest to `digits * 10 ^ exponent`. -/
def nearest (digits : Nat) (exponent : Int) : Float :=
  let position := ((natText digits).length : Int) + exponent
  if digits = 0 ∨ position < -400 then Float.ofScientific 0 false 0
  else if 400 < position then infinity
  else if 0 ≤ exponent then Float.ofScientific digits false exponent.toNat
  else Float.ofScientific digits true exponent.natAbs

/-- The number nearest to the decimal whose parts are given by their digits. -/
def ofParts (negative : Bool) (whole fraction : List Nat) (exponent : Int) : Float :=
  let size := nearest (Text.ofDigits (whole ++ fraction)) (exponent - fraction.length)
  if negative then -size else size

def readExponent? : Text → Option Int
  | '-' :: t => (naturalIn? 10 t).map fun n => -(n : Int)
  | '+' :: t => (naturalIn? 10 t).map fun n => (n : Int)
  | t => (naturalIn? 10 t).map fun n => (n : Int)

/-- The number nearest to the decimal that a text without a sign writes. There is a digit before or
after the point. -/
def readUnsigned? (t : Text) : Option Float := do
  let (size, power) := Text.breakAt (fun c => c = 'e' || c = 'E') t
  let exponent ← if power.isEmpty then some 0 else readExponent? power.tail
  let (whole, point) := Text.breakAt (· = '.') size
  let whole ← whole.mapM (digitIn? 10)
  let places ← point.tail.mapM (digitIn? 10)
  guard !(whole.isEmpty && places.isEmpty)
  return ofParts false whole places exponent

/-! ## Free form -/

/-- The ASCII digit for a digit of any script. Other characters stay. -/
def plainDigit (c : Char) : Char :=
  match Text.digit? c with
  | some d => Char.ofNat (0x30 + d)
  | none => c

/-- Whether underscores stand only between digits, where `before` is what stands before the text. -/
def areUnderscoresInside (before : Char) : Text → Bool
  | [] => before ≠ '_'
  | c :: rest =>
    (if c = '_' then isDigit before else before ≠ '_' || isDigit c) && areUnderscoresInside c rest

def readSize? (t : Text) : Option Float :=
  let lowered := t.map Char.toLower
  if lowered = "inf" ∨ lowered = "infinity" then some infinity
  else if lowered = "nan" then some notANumber
  else readUnsigned? t

def readFloat? (t : Text) : Option Float := do
  let t := (trimMargins t).map plainDigit
  guard (areUnderscoresInside ' ' t)
  match t.filter (· ≠ '_') with
  | '-' :: t => (readSize? t).map fun x => -x
  | '+' :: t => readSize? t
  | t => readSize? t

end LintReport.Decimal
