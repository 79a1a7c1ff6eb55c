import LintReport.Text.Printable

/-!
# Quoted texts

The form in which a message shows a text that it found: between single quotes, or between double
quotes where the text holds single quotes but no double ones. The quote, the backslash and all that
cannot be printed are escaped.
-/

namespace LintReport.Text

def hexDigit (n : Nat) : Char :=
  if n < 10 then Char.ofNat (0x30 + n) else Char.ofNat (0x61 + (n - 10))

/-- The last `width` hexadecimal digits of `n`. -/
def hexDigits : (width n : Nat) → Text
  | 0, _ => []
  | width + 1, n => hexDigits width (n / 16) ++ [hexDigit (n % 16)]

/-- How a character is written between quotes of the form `quote`. -/
def escaped (quote c : Char) : Text :=
  if c = quote ∨ c = '\\' then ['\\', c]
  else if c = '\t' then "\\t"
  else if c = '\n' then "\\n"
  else if c = '\r' then "\\r"
  else if isPrintable c then [c]
  else if c.toNat < 0x100 then "\\x" ++ hexDigits 2 c.toNat
  else if c.toNat < 0x10000 then "\\u" ++ hexDigits 4 c.toNat
  else "\\U" ++ hexDigits 8 c.toNat

def quoteOf (t : Text) : Char :=
  if t.contains (Char.ofNat 0x27) && !t.contains '"' then '"' else Char.ofNat 0x27

def quoted (t : Text) : Text :=
  let quote := quoteOf t
  quote :: t.flatMap (escaped quote) ++ [quote]

end LintReport.Text
