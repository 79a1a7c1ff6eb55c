import LintReport.Text.Basic

/-!
# Numbers in other bases

Natural numbers in a base up to sixteen, whose digits beyond nine are letters of either case.
-/

namespace LintReport.Decimal

def digitIn? (base : Nat) (c : Char) : Option Nat :=
  let n := c.toNat
  let value :=
    if 0x30 ≤ n ∧ n ≤ 0x39 then n - 0x30
    else if 0x61 ≤ n ∧ n ≤ 0x66 then n - 0x61 + 10
    else if 0x41 ≤ n ∧ n ≤ 0x46 then n - 0x41 + 10
    else base
  if value < base then some value else none

def ofDigitsIn (base : Nat) (digits : List Nat) : Nat :=
  digits.foldl (fun n d => base * n + d) 0

def naturalIn? (base : Nat) (t : Text) : Option Nat := do
  let digits ← t.mapM (digitIn? base)
  guard !digits.isEmpty
  return ofDigitsIn base digits

/-- Whether the character is one of the ten ASCII digits. -/
def isDigit (c : Char) : Bool :=
  '0' ≤ c && c ≤ '9'

end LintReport.Decimal
