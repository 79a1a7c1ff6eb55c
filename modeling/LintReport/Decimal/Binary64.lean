/-!
# The exact value of a floating-point number

A 64-bit floating-point number is not a number, an infinity, or an exact dyadic fraction. All
comparisons of such numbers with integers are made on that exact value, so that no rounding enters.
-/

namespace LintReport.Decimal

/-- What a 64-bit floating-point number stands for. A finite one stands for
`significand * 2 ^ exponent`, with its sign kept apart because zero has two. -/
inductive Binary64 where
  | nan
  | infinite (negative : Bool)
  | finite (negative : Bool) (significand : Nat) (exponent : Int)
  deriving DecidableEq

namespace Binary64

def ofFloat (x : Float) : Binary64 :=
  let bits : Nat := x.toBits.toNat
  let negative : Bool := Nat.pow 2 63 ≤ bits
  let biased : Nat := bits / Nat.pow 2 52 % Nat.pow 2 11
  let fraction : Nat := bits % Nat.pow 2 52
  if biased = 2047 then
    if fraction = 0 then .infinite negative else .nan
  else if biased = 0 then
    .finite negative fraction (-1074)
  else
    .finite negative (Nat.pow 2 52 + fraction) ((biased : Int) - 1075)

def fraction (negative : Bool) (significand : Nat) (exponent : Int) : Int × Nat :=
  let size := significand * Nat.pow 2 exponent.toNat
  (if negative then -(size : Int) else size, Nat.pow 2 (-exponent).toNat)

def ltInt : Binary64 → Int → Bool
  | nan, _ => false
  | infinite negative, _ => negative
  | finite negative m e, n =>
    let (num, den) := fraction negative m e
    num < n * den

def gtInt : Binary64 → Int → Bool
  | nan, _ => false
  | infinite negative, _ => !negative
  | finite negative m e, n =>
    let (num, den) := fraction negative m e
    n * den < num

def eqInt : Binary64 → Int → Bool
  | finite negative m e, n =>
    let (num, den) := fraction negative m e
    num == n * den
  | _, _ => false

/-- Whether two values are equal. Nothing equals what is not a number. -/
def eq : Binary64 → Binary64 → Bool
  | infinite a, infinite b => a == b
  | finite a m e, finite b n f =>
    let (num₁, den₁) := fraction a m e
    let (num₂, den₂) := fraction b n f
    num₁ * den₂ == num₂ * den₁
  | _, _ => false

/-- Whether two values are equal, where what is not a number equals itself. -/
def sameKey : Binary64 → Binary64 → Bool
  | nan, nan => true
  | x, y => x.eq y

def isZero : Binary64 → Bool
  | finite _ m _ => m == 0
  | _ => false

end Binary64

end LintReport.Decimal
