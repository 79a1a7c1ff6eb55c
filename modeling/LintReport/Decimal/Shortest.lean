import LintReport.Decimal.Binary64
import LintReport.Decimal.Integer

/-!
# Shortest decimals

A finite floating-point number is written with the fewest digits that read back to it, and among
those with the digits nearest to its exact value. The digits are found on one decimal grid after the
other: on each grid only the two neighbours of the value can be nearest.
-/

namespace LintReport.Decimal

/-- A positive decimal: the digits of `digits`, times ten to the power `exponent`. -/
structure Scientific where
  digits : Nat
  exponent : Int
  deriving DecidableEq

/-- A positive value with the interval of reals that round to it. All four numbers are multiples of
one over `den`; the ends belong to the interval iff `closed`. -/
structure Rounding where
  value : Nat
  below : Nat
  above : Nat
  den : Nat
  closed : Bool

/-- The interval around `significand * 2 ^ exponent`. The interval reaches half as far down as up
where the significand is the least of its binade, subnormal numbers apart. -/
def Rounding.of (significand : Nat) (exponent : Int) : Rounding :=
  let unit := Nat.pow 2 exponent.toNat
  let narrow := significand = Nat.pow 2 52 ∧ -1074 < exponent
  { value := 4 * significand * unit
    below := 4 * significand * unit - (if narrow then unit else 2 * unit)
    above := 4 * significand * unit + 2 * unit
    den := 4 * Nat.pow 2 (-exponent).toNat
    closed := significand % 2 = 0 }

/-- Whether `d * 10 ^ exponent` lies in the interval. -/
def Rounding.contains (r : Rounding) (d : Nat) (exponent : Int) : Bool :=
  let point := d * Nat.pow 10 exponent.toNat * r.den
  let scale := Nat.pow 10 (-exponent).toNat
  if r.closed then
    r.below * scale ≤ point && point ≤ r.above * scale
  else
    r.below * scale < point && point < r.above * scale

/-- The number of digits before the decimal point of `value / den`; zero or less if the value is
below one. -/
def Rounding.pointPosition (r : Rounding) : Int :=
  if r.den ≤ r.value then
    ((natText (r.value / r.den)).length : Int)
  else
    1 - ((natText ((r.den - 1) / r.value)).length : Int)

/-- The multiple of `10 ^ exponent` in the interval that is nearest to the value, the even one of
two that are equally near. -/
def Rounding.nearest? (r : Rounding) (exponent : Int) : Option Nat :=
  let grid := Nat.pow 10 exponent.toNat * r.den
  let scaled := r.value * Nat.pow 10 (-exponent).toNat
  let low := scaled / grid
  let lowFits := r.contains low exponent
  let highFits := r.contains (low + 1) exponent
  if lowFits && highFits then
    let toLow := scaled - low * grid
    let toHigh := (low + 1) * grid - scaled
    if toLow < toHigh ∨ (toLow = toHigh ∧ low % 2 = 0) then some low else some (low + 1)
  else if lowFits then some low
  else if highFits then some (low + 1)
  else none

/-- The first grid, from `count` digits on, with a point in the interval. -/
def Rounding.search (r : Rounding) (position : Int) : (count : List Nat) → Scientific
  | [] => ⟨r.value / r.den, 0⟩
  | n :: more =>
    match r.nearest? (position - n) with
    | some d => ⟨d, position - n⟩
    | none => r.search position more

/-- The fewest digits that read back to `significand * 2 ^ exponent`, which must be positive.
Seventeen digits suffice for every 64-bit number. -/
def shortest (significand : Nat) (exponent : Int) : Scientific :=
  let r := Rounding.of significand exponent
  r.search r.pointPosition (List.range' 1 17)

/-- Where the decimal point stands in the text of a number: the values of the position between which
the number is written without an exponent. -/
structure Notation where
  leastPosition : Int
  greatestPosition : Int

/-- Numbers from one ten-thousandth up to, but not including, ten to the sixteenth are written
without an exponent. -/
def plainNotation : Notation := ⟨-3, 16⟩

def exponentText (e : Int) : Text :=
  let digits := natText e.natAbs
  (if e < 0 then '-' else '+') :: (if digits.length < 2 then '0' :: digits else digits)

/-- The text of a positive decimal whose digits do not end in zero. -/
def Scientific.text (format : Notation) (s : Scientific) : Text :=
  let digits := natText s.digits
  let position := (digits.length : Int) + s.exponent
  if format.leastPosition ≤ position ∧ position ≤ format.greatestPosition then
    if position ≤ 0 then
      "0." ++ List.replicate (-position).toNat '0' ++ digits
    else if (digits.length : Int) ≤ position then
      digits ++ List.replicate s.exponent.toNat '0' ++ ".0"
    else
      digits.take position.toNat ++ ['.'] ++ digits.drop position.toNat
  else
    let fraction := digits.drop 1
    digits.take 1 ++ (if fraction.isEmpty then [] else '.' :: fraction) ++ ['e'] ++
      exponentText (position - 1)

def Scientific.trimmed (s : Scientific) : Scientific :=
  let digits := natText s.digits
  let kept := Text.dropEndWhile (· = '0') digits
  let zeros := digits.length - kept.length
  ⟨s.digits / Nat.pow 10 zeros, s.exponent + zeros⟩

def floatText (x : Float) : Text :=
  match Binary64.ofFloat x with
  | .nan => "nan"
  | .infinite negative => if negative then "-inf" else "inf"
  | .finite negative significand exponent =>
    let size : Text :=
      if significand = 0 then "0.0"
      else ((shortest significand exponent).trimmed).text plainNotation
    if negative then '-' :: size else size

end LintReport.Decimal
