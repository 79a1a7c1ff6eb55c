import LintReport.Text.Basic

/-!
# Places in YAML text

Reading YAML depends on where in a line one is. A cursor is a place in a text: what follows it, and
how many characters, lines and characters of the line precede it. Lines end in one of four
characters, of which two count as characters of the text that is read and two as plain line feeds.
-/

namespace LintReport.Yaml

inductive Fault where
  /-- A character may not stand in the text at all. -/
  | character
  /-- The characters make no token. -/
  | token
  /-- The tokens make no tree. -/
  | tree
  /-- A name is not that of an earlier node, or is that of several, or there are several trees. -/
  | reference
  /-- A node has no value. -/
  | value
  /-- A number, a date or a code point is out of range or is none. -/
  | range
  /-- A code point or a digit of a number is far out of range. -/
  | tooLarge
  /-- A number has no digits at all. -/
  | noDigits
  /-- A text is to be a truth value and is none. -/
  | notTruth (found : Text)
  /-- A text is to be a date and is none. -/
  | notADate
  /-- A mapping is to be a date. -/
  | mappingAsDate
  /-- A node stands for its own plain value. -/
  | endless
  /-- Collections are nested deeper than they may be. -/
  | tooDeep
  deriving DecidableEq

/-! ## Characters -/

def isAllowed (c : Char) : Bool :=
  let n := c.toNat
  n = 0x9 || n = 0xA || n = 0xD || (0x20 ≤ n && n ≤ 0x7E) || n = 0x85 ||
    (0xA0 ≤ n && n ≤ 0xFFFD) || 0x10000 ≤ n

def isBreak (c : Char) : Bool :=
  c = '\n' || c.toNat = 0x85 || c.toNat = 0x2028 || c.toNat = 0x2029

/-- Whether the character is a space or a tab. -/
def isSpace (c : Char) : Bool :=
  c = ' ' || c = '\t'

/-- Whether a line ends before what comes next. -/
def endsLine : Option Char → Bool
  | none => true
  | some c => isBreak c

/-- Whether a word ends before what comes next. -/
def endsWord : Option Char → Bool
  | none => true
  | some c => isBreak c || isSpace c

def isNameChar (c : Char) : Bool :=
  c.isAlphanum || c = '-' || c = '_'

/-- The character as which a line break is read. -/
def breakRead (c : Char) : Char :=
  if c.toNat = 0x85 then '\n' else c

/-- The mark that a file may begin with and that has no width. -/
def byteOrderMark : Char := Char.ofNat 0xFEFF

/-! ## Cursors -/

structure Cursor where
  rest : Text
  index : Nat
  line : Nat
  column : Nat

namespace Cursor

def start (t : Text) : Cursor := ⟨t, 0, 0, 0⟩

def peek (c : Cursor) (n : Nat) : Option Char :=
  c.rest[n]?

def next (c : Cursor) : Cursor :=
  match c.rest with
  | [] => c
  | first :: rest =>
    if isBreak first then ⟨rest, c.index + 1, c.line + 1, 0⟩
    else ⟨rest, c.index + 1, c.line, if first = byteOrderMark then c.column else c.column + 1⟩

def advance (c : Cursor) : Nat → Cursor
  | 0 => c
  | n + 1 => c.next.advance n

/-- The longest text of characters that satisfy `p`, and the place after it. -/
def span (p : Char → Bool) (c : Cursor) : Text × Cursor :=
  let taken := c.rest.takeWhile p
  (taken, c.advance taken.length)

def skipSpaces (c : Cursor) : Cursor :=
  (c.span (· = ' ')).2

/-- The place at the end of the line if a comment starts here. -/
def skipComment (c : Cursor) : Cursor :=
  if c.peek 0 = some '#' then (c.span fun x => !isBreak x).2 else c

def lineBreak? (c : Cursor) : Option (Char × Cursor) :=
  match c.rest with
  | first :: _ => if isBreak first then some (breakRead first, c.next) else none
  | [] => none

/-- Whether three characters and the end of a word come next. -/
def isAtMark (mark : Char) (c : Cursor) : Bool :=
  (c.rest.take 3 == List.replicate 3 mark) && endsWord (c.peek 3)

/-- Whether the beginning or the end of a document is marked here. -/
def isAtSeparator (c : Cursor) : Bool :=
  c.isAtMark '-' || c.isAtMark '.'

end Cursor

end LintReport.Yaml
