import LintReport.Decimal.Radix
import LintReport.Text.Utf8

/-!
# Percent encoding

A percent sign and two hexadecimal digits stand for one byte. Bytes that write no character in UTF-8
become U+FFFD. A percent sign without two digits stands for itself, and so does every character
outside ASCII, which also ends the sequence of bytes before it.
-/

namespace LintReport.Url

/-- The bytes of an ASCII text in which percent signs stand for bytes. -/
def percentBytes : Text → List UInt8
  | '%' :: a :: b :: rest =>
    match Decimal.digitIn? 16 a, Decimal.digitIn? 16 b with
    | some high, some low => UInt8.ofNat (high * 16 + low) :: percentBytes rest
    | _, _ => UInt8.ofNat 0x25 :: percentBytes (a :: b :: rest)
  | c :: rest => UInt8.ofNat c.toNat :: percentBytes rest
  | [] => []

def isAscii (c : Char) : Bool :=
  c.toNat < 0x80

/-- Decodes a text that follows `run`, the ASCII characters just before it, last character first. -/
def decodeAfter (run : Text) : Text → Text
  | [] => Utf8.decodeLossy (percentBytes run.reverse)
  | c :: rest =>
    if isAscii c then decodeAfter (c :: run) rest
    else Utf8.decodeLossy (percentBytes run.reverse) ++ c :: decodeAfter [] rest

def percentDecode (t : Text) : Text :=
  decodeAfter [] t

end LintReport.Url
