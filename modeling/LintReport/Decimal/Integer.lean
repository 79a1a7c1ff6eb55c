import LintReport.Decimal.Radix
import LintReport.Text.Blank
import LintReport.Text.Digit

/-!
# Integers as texts

Integers of any size are written in base ten up to a limit on the number of digits. They are read
from the decimal digits of any script, with single underscores between digits, an optional sign and
blanks around. In the bases two, eight and sixteen the base may be named before the digits, and
there is no limit.
-/

namespace LintReport.Decimal

/-- The greatest number of digits that is read or written in base ten. -/
def maxDigits : Nat := 4300

def natText (n : Nat) : Text :=
  Nat.toDigits 10 n

def intText (n : Int) : Text :=
  if n < 0 then '-' :: natText n.natAbs else natText n.natAbs

/-- The text of an integer that has no more than the greatest number of digits. -/
def intText? (n : Int) : Option Text :=
  if (natText n.natAbs).length ≤ maxDigits then some (intText n) else none

/-! ## Around the digits -/

/-- Whether the character may stand around a number: white space, but none of the four separators
U+001C to U+001F. -/
def isMargin (c : Char) : Bool :=
  Text.isBlank c && !decide (0x1C ≤ c.toNat ∧ c.toNat ≤ 0x1F)

/-- The text without what may stand around a number. -/
def trimMargins (t : Text) : Text :=
  Text.dropEndWhile isMargin (t.dropWhile isMargin)

def readSigned? (natural? : Text → Option Nat) (t : Text) : Option Int :=
  match trimMargins t with
  | '-' :: digits => (natural? digits).map fun n => -(n : Int)
  | '+' :: digits => (natural? digits).map fun n => (n : Int)
  | digits => (natural? digits).map fun n => (n : Int)

/-! ## Digits -/

/-- The value of a digit in a base up to sixteen. The digits up to nine are those of any script. -/
def digitOfAnyScript? (base : Nat) (c : Char) : Option Nat :=
  match Text.digit? c with
  | some d => if d < base then some d else none
  | none => digitIn? base c

/-- The values of digits between which single underscores may stand. -/
def groupedDigits? (base : Nat) : Text → Option (List Nat)
  | [] => none
  | [c] => (digitOfAnyScript? base c).map ([·])
  | c :: '_' :: rest => do
    let d ← digitOfAnyScript? base c
    let ds ← groupedDigits? base rest
    return d :: ds
  | c :: rest => do
    let d ← digitOfAnyScript? base c
    let ds ← groupedDigits? base rest
    return d :: ds

def groupedNatural? (digits : Text) : Option Nat := do
  let ds ← groupedDigits? 10 digits
  guard (ds.length ≤ maxDigits)
  return Text.ofDigits ds

def groupedNaturalIn? (base : Nat) (digits : Text) : Option Nat :=
  (groupedDigits? base digits).map (ofDigitsIn base)

/-! ## Bases by name -/

def baseOf? (c : Char) : Option Nat :=
  if c = 'x' || c = 'X' then some 16
  else if c = 'o' || c = 'O' then some 8
  else if c = 'b' || c = 'B' then some 2
  else none

def afterBase? (base : Nat) : Text → Option Nat
  | '_' :: digits => groupedNaturalIn? base digits
  | digits => groupedNaturalIn? base digits

/-! ## Reading -/

def readInt? (t : Text) : Option Int :=
  readSigned? groupedNatural? t

def readIntIn? (base : Nat) (t : Text) : Option Int :=
  readSigned? natural? t
where
  natural? : Text → Option Nat
    | '0' :: c :: digits =>
      if baseOf? c = some base then afterBase? base digits
      else groupedNaturalIn? base ('0' :: c :: digits)
    | digits => groupedNaturalIn? base digits

/-- The integer that a text writes in the base that it names, and otherwise in base ten. Without the
name of a base only zero begins with the digit zero. -/
def readLiteral? (t : Text) : Option Int :=
  readSigned? natural? t
where
  natural? : Text → Option Nat
    | '0' :: c :: digits =>
      match baseOf? c with
      | some base => afterBase? base digits
      | none => (groupedNatural? ('0' :: c :: digits)).filter (· = 0)
    | digits => groupedNatural? digits

end LintReport.Decimal
