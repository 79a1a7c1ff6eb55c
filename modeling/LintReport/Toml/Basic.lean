import LintReport.Text.Basic

/-!
# TOML

What all parts of the reader of TOML files share: the faults of a file, quotes, and backslashes.
-/

namespace LintReport.Toml

inductive Fault where
  | malformed
  /-- The text ends, or a list or a name is empty, where something has to be looked at. -/
  | beyondEnd
  /-- A name is looked for in what is no table. -/
  | notATable
  /-- An element is added to what is no list. -/
  | notAList
  /-- A number is beyond what the parts of a date or a character may be. -/
  | tooLarge
  /-- A table that is opened again holds a number that cannot be shown. -/
  | numberTooLong
  /-- A text of several lines has an empty name. -/
  | unnamed
  /-- Lists and tables are nested deeper than there is room for. -/
  | tooDeep
  deriving DecidableEq

def isQuote (c : Char) : Bool :=
  c = '"' || c = '\''

def startsQuoted (t : Text) : Bool :=
  (t.head?.map isQuote).getD false

def isEscapedAfter (before : Text) : Bool :=
  (before.takeWhile (· = '\\')).length % 2 = 1

/-- Whether a text ends in an odd number of backslashes. -/
def endsEscaped (t : Text) : Bool :=
  isEscapedAfter t.reverse

/-! ## Parts between quotes -/

/-- The parts of a text between single quotes, where parts between double quotes are added to the
last one until it is outside of single quotes. What is left of the other parts comes second. -/
def closeSingle : (singles doubles : List Text) → List Text × List Text
  | singles, [] => (singles, [])
  | singles, part :: parts =>
    if singles.length % 2 = 0 then
      let last := (singles.getLast?.getD []) ++ '"' :: part
      closeSingle (singles.dropLast ++ Text.split '\'' last) parts
    else (singles, part :: parts)

/-- The parts with the first one cut at single quotes. -/
def cutFirst : List Text → List Text
  | [] => []
  | part :: parts => Text.split '\'' part ++ parts

/-- The parts of a text that are by turns outside of quotes and between quotes. Single quotes count
up to the first double quote that is not between them. -/
def quoteParts (t : Text) : List Text :=
  match Text.split '"' t with
  | first :: next :: rest =>
    if first.contains '\'' then
      let (singles, rest) := closeSingle (Text.split '\'' first) (next :: rest)
      singles ++ cutFirst rest
    else cutFirst (first :: next :: rest)
  | parts => cutFirst parts

/-- Which occurrence of `sep` is the first one outside of quotes, counted from one. Of these parts
the first one is between quotes if `quoted` holds. -/
def ordinalOutside (sep : Text) : (quoted : Bool) → (parts : List Text) → Nat
  | _, [] => 1
  | quoted, part :: parts =>
    if !quoted && Text.hasInfix sep part then 1
    else (Text.splitAll sep part).length - 1 + ordinalOutside sep (!quoted) parts

/-- The text up to, and the text after, the occurrence of `sep` with this number, or the last one if
there are fewer. -/
def cutAt (sep : Text) (ordinal : Nat) (t : Text) : Text × Text :=
  let pieces := Text.splitAll sep t
  let n := min ordinal (pieces.length - 1)
  (Text.join sep (pieces.take n), Text.join sep (pieces.drop n))

end LintReport.Toml
