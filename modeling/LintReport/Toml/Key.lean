import LintReport.Decimal.Nearest
import LintReport.Text.Blank
import LintReport.Toml.Quoted
import LintReport.Toml.Word

/-!
# Keys of TOML

A pair is cut at an equals sign, a key is cut at its dots, and so is the name in the brackets of a
header. Names may be quoted, and signs and dots between quotes do not cut.
-/

namespace LintReport.Toml

/-! ## Pairs -/

/-- Whether the text after an equals sign may be a value: it begins with a blank, a quote or a
bracket, or it is a truth value, a number, a date or a time. -/
def isValueStart (t : Text) : Except Fault Bool := do
  match t with
  | [] => return true
  | c :: _ =>
    if c = ' ' || c = '\t' || isQuote c || c = '[' || c = '\x7b' then return true
    if Text.trim t = "true" || Text.trim t = "false" then return true
    if (Decimal.readFloat? t).isSome then return true
    return (← date? t).isSome || (timePrefix? t).isSome

/-- A pair cut in two, and whether its value may be a number. -/
structure Cut where
  key : Text
  value : Text
  isSpaced : Bool

/-- The pair cut at the equals sign with this number, or at a later one, such that the text after it
may be a value. Before a later one is tried the pair was cut with `value` after the sign. -/
def cutFrom (line : Text) :
    (fuel ordinal : Nat) → (value : Text) → (isSpaced : Bool) → Except Fault Cut
  | 0, _, _, _ => .error .malformed
  | fuel + 1, ordinal, value, isSpaced => do
    if ← isValueStart value then
      return ⟨Text.trim (cutAt ['='] ordinal line).1, Text.trim value, isSpaced⟩
    let next := (cutAt ['='] (ordinal + 1) line).2
    if next = value then throw .malformed
    cutFrom line fuel (ordinal + 1) next (isSpaced && isWellSpaced next)

/-- The pair on a line. A value that begins with a digit is tried without underscores first. -/
def cut (line : Text) : Except Fault Cut :=
  let ordinal := ordinalOutside ['='] false (quoteParts line)
  let value := (cutAt ['='] ordinal line).2
  let plain := if value.head?.any Decimal.isDigit then value.filter (· ≠ '_') else value
  cutFrom line (line.length + 2) ordinal plain (isWellSpaced value)

/-! ## Keys -/

/-- The names between dots, of parts of a key that are by turns outside of quotes and between
quotes. -/
def levels : (quoted : Bool) → (parts : List Text) → List Text
  | _, [] => []
  | true, part :: parts => part :: levels false parts
  | false, part :: parts => Text.split '.' part ++ levels true parts

/-- The names of the tables that a key leads through, and its last name. Names before the last one
that are empty do not count. -/
def keyPath (key : Text) : Except Fault (List Text × Text) :=
  if key.contains '.' then
    match (levels false (quoteParts key)).reverse.dropWhile (·.isEmpty) with
    | [] => .error .beyondEnd
    | last :: before => .ok (before.reverse.filter fun name => !name.isEmpty, Text.trim last)
  else
    match key with
    | [] => .error .beyondEnd
    | first :: _ =>
      if isQuote first && key.getLast? = some first then
        (unescape (Text.inner key)).map fun name => ([], name)
      else .ok ([], key)

/-! ## Headers -/

def isBareChar (c : Char) : Bool :=
  c.isAlphanum || c = '_' || c = '-'

/-- Whether a text is closed by the quote that it begins with. -/
def isQuotedName (t : Text) : Bool :=
  1 < t.length && t.head? = t.getLast?

/-- The names of a header from the parts between its dots. A name in quotes may consist of several
parts; those of it that have been read come first. -/
def headerNames : (opened : Option Text) → (parts : List Text) → Except Fault (List Text)
  | none, [] => .ok []
  | some _, [] => .error .malformed
  | none, part :: parts => do
    let name := Text.trim part
    if startsQuoted name then
      if isQuotedName name then return Text.inner name :: (← headerNames none parts)
      else headerNames (some name) parts
    else if name.isEmpty || !name.all isBareChar then throw .malformed
    else return name :: (← headerNames none parts)
  | some before, part :: parts => do
    let joined := before ++ '.' :: part
    let name := Text.trim joined
    if isQuotedName name then return Text.inner name :: (← headerNames none parts)
    else headerNames (some joined) parts

/-- The names of a header after its opening brackets. Nothing stands after the closing ones. -/
def headerPath (close t : Text) : Except Fault (List Text) := do
  let ordinal := ordinalOutside close false (quoteParts t)
  let (name, rest) := cutAt close ordinal t
  if (Text.splitAll close t).length ≤ ordinal || !(Text.trim rest).isEmpty then throw .malformed
  headerNames none (Text.split '.' name)

/-- Whether a header is that of an element of a list of tables, and its names. -/
def header : Text → Except Fault (Bool × List Text)
  | '[' :: '[' :: t => (headerPath "]]" t).map fun names => (true, names)
  | '[' :: t =>
    if t.isEmpty then .error .malformed
    else (headerPath "]" t).map fun names => (false, names)
  | _ => .error .malformed

end LintReport.Toml
