import LintReport.Text.Basic

/-!
# The base64 alphabet

Sixty-four letters, one for each number of six bits. Inline source maps and the mappings of a source
map are both written with it.
-/

namespace LintReport.Base64

def digit? (c : Char) : Option Nat :=
  if 'A' ≤ c ∧ c ≤ 'Z' then some (c.toNat - 65)
  else if 'a' ≤ c ∧ c ≤ 'z' then some (c.toNat - 71)
  else if '0' ≤ c ∧ c ≤ '9' then some (c.toNat + 4)
  else if c = '+' then some 62
  else if c = '/' then some 63
  else none

def letter (n : Nat) : Char :=
  if n < 26 then Char.ofNat (n + 65)
  else if n < 52 then Char.ofNat (n + 71)
  else if n < 62 then Char.ofNat (n - 4)
  else if n = 62 then '+'
  else '/'

theorem digit?_letter {n : Nat} (h : n < 64) : digit? (letter n) = some n := by
  have all : ∀ m : Fin 64, digit? (letter m) = some m.val := by decide
  exact all ⟨n, h⟩

end LintReport.Base64
