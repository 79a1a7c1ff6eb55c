import LintReport.Decimal.Shortest
import LintReport.Text.Quoted
import LintReport.Value.Basic

/-!
# The text of a value

A value has two texts. Inside another value, and where a message shows what it found, texts are
quoted; alone a text is itself. A value has no text if it holds an integer with more digits than are
written, or is a time with an offset of a whole day or more.
-/

namespace LintReport.Value

def braced (t : Text) : Text :=
  '\x7b' :: t ++ ['\x7d']

def escapedByte (quote : Char) (b : UInt8) : Text :=
  let c := Char.ofNat b.toNat
  if b < 0x80 then Text.escaped quote c else "\\x" ++ Text.hexDigits 2 b.toNat

def bytesText (bs : List UInt8) : Text :=
  let quote := Text.quoteOf (bs.map fun b => Char.ofNat b.toNat)
  'b' :: quote :: bs.flatMap (escapedByte quote) ++ [quote]

mutual

/-- The text of a value as it stands inside another one. -/
def shown? : Value → Option Text
  | null => some "None"
  | bool b => some (if b then "True" else "False")
  | int n => Decimal.intText? n
  | float x => some (Decimal.floatText x)
  | str s => some s.quoted
  | list xs => (shownAll? xs).map fun texts => '[' :: Text.join ", " texts ++ [']']
  | map entries => (shownEntries? entries).map fun texts => braced (Text.join ", " texts)
  | bytes bs => some (bytesText bs)
  | moment m => some m.description
  | set [] => some "set()"
  | set (x :: xs) => do
    let text ← shown? x
    let texts ← shownAll? xs
    return braced (Text.join ", " (text :: texts))
  | pair x y => do
    let first ← shown? x
    let second ← shown? y
    return '(' :: first ++ ", " ++ second ++ [')']
  | enclosing isMap => some (if isMap then braced "..." else "[...]")

def shownAll? : List Value → Option (List Text)
  | [] => some []
  | v :: rest => do
    let text ← shown? v
    let texts ← shownAll? rest
    return text :: texts

def shownEntries? : List (Value × Value) → Option (List Text)
  | [] => some []
  | (k, v) :: rest => do
    let key ← shown? k
    let value ← shown? v
    let texts ← shownEntries? rest
    return (key ++ ": " ++ value) :: texts

end

theorem shown?_list (xs : List Value) :
    (list xs).shown? = (shownAll? xs).map fun texts => '[' :: Text.join ", " texts ++ [']'] := by
  rw [shown?]

theorem shown?_map (entries : List (Value × Value)) :
    (map entries).shown? =
      (shownEntries? entries).map fun texts => braced (Text.join ", " texts) := by
  rw [shown?]

/-- The text of a value that stands alone. -/
def text? : Value → Option Text
  | str s => some s
  | moment m => m.text?
  | v => shown? v

end LintReport.Value
