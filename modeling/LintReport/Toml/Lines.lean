import LintReport.Text.Alphanumeric
import LintReport.Text.Blank
import LintReport.Toml.Basic

/-!
# The lines of a TOML file

Before a file is read, its characters are looked at one by one. Comments become spaces, the lines of
a list in brackets become one line, and keys are checked. Whether a character is between quotes
depends on the quotes and backslashes right before it; the first character of a text is taken to
follow the last one.
-/

namespace LintReport.Toml

/-- Where in the key of a line a character is. A key is dotted once a dot has been in it. -/
inductive KeyPart where
  | outside
  | inside (dotted : Bool)
  | behind (dotted : Bool)
  deriving DecidableEq

inductive Header where
  | none
  | table
  | element
  deriving DecidableEq

/-- What is known after some characters of a text. They come last first in `before`. The brackets
that are open and are not those of a header are counted by `depth`. -/
structure Scan where
  before : Text
  quote : Option Char
  isLong : Bool
  depth : Int
  header : Header
  atStart : Bool
  key : KeyPart
  inComment : Bool

namespace Scan

def start : Scan := ⟨[], none, false, 0, .none, true, .outside, false⟩

def put (s : Scan) (c : Char) : Scan :=
  { s with before := c :: s.before }

/-! ## Keys -/

def isNameChar (c : Char) : Bool :=
  Text.isAlphanumeric c || c = '_' || c = '-'

def goesOn : (next : Option Char) → Except Fault Bool
  | none => .error .beyondEnd
  | some c => .ok (!Text.isBlank c && c ≠ '.')

/-- The part of a dotted key after a dot or a blank that follows a name. -/
def partAfter (next : Option Char) : Except Fault KeyPart := do
  return if ← goesOn next then .inside true else .behind true

def keyPart (s : Scan) (c : Char) (next : Option Char) : KeyPart → Except Fault KeyPart
  | .outside => .ok .outside
  | .inside dotted =>
    if c = '=' then .ok .outside
    else if Text.isBlank c then .ok (.behind dotted)
    else if c = '.' then .ok (.inside true)
    else if isNameChar c || (dotted && isQuote c && s.before.head? = some '.') then
      .ok (.inside dotted)
    else .error .malformed
  | .behind dotted =>
    if c = '=' then .ok .outside
    else if c = '.' || (dotted && Text.isBlank c) then partAfter next
    else if Text.isBlank c then .ok (.behind false)
    else .error .malformed

/-- After a character of a key. A quote can open only after a dot, since the one that a key begins
with is open already. -/
def inKey (s : Scan) (c : Char) (next : Option Char) : Except Fault Scan := do
  if c = '\n' then throw .malformed
  match s.quote, s.key with
  | some quote, key =>
    if c = quote && !isEscapedAfter s.before then
      let key := match key with
        | .inside dotted | .behind dotted => .behind dotted
        | .outside => .outside
      return { s with quote := none, key }.put c
    return s.put c
  | none, key => return { s with quote := if isQuote c then some c else none,
                                 key := ← s.keyPart c next key }.put c

/-! ## Outside of keys -/

/-- After a quote. It opens or closes a text, or opens or closes a text of several lines if it is
the third one; but a double quote does not count after an odd number of backslashes, and no quote
counts within quotes of the other kind. -/
def atQuote (s : Scan) (c : Char) (around : Text) : Scan :=
  let before := if s.before.isEmpty then around else s.before
  let isThird := before.take 2 == [c, c]
  let isEscaped := c = '"' && isEscapedAfter (if isThird then before.drop 2 else before)
  if isEscaped || (s.quote.isSome && s.quote != some c) then s
  else if isThird then { s with isLong := !s.isLong, quote := if s.isLong then none else some c }
  else { s with quote := if s.quote.isSome then none else some c }

/-- After a bracket that is not between quotes. -/
def atBracket (s : Scan) (c : Char) (next : Option Char) : Scan :=
  match c, s.header with
  | '[', .none =>
    if !s.atStart then { s with depth := s.depth + 1 }
    else { s with header := if next = some '[' then .element else .table }
  | ']', .none => { s with depth := s.depth - 1 }
  | ']', .table => { s with header := .none }
  | ']', .element => if s.before.head? = some ']' then { s with header := .none } else s
  | _, _ => s

/-- After the end of a line. Only a text of several lines goes on, where two quotes before the end
of the line are taken for three. -/
def atLineEnd (s : Scan) : Except Fault Scan :=
  let s := { s with inComment := false }
  if s.isLong then
    match s.before with
    | a :: b :: rest =>
      if isQuote a && a = b then
        let rest := if rest.head? = some a then ' ' :: rest.drop 1 else rest
        .ok { s with before := a :: a :: b :: rest }
      else .ok (s.put '\n')
    | _ => .ok (s.put '\n')
  else if s.quote.isSome then .error .malformed
  else if s.depth ≠ 0 then .ok (s.put ' ')
  else .ok ({ s with atStart := true }.put '\n')

/-- After the first character of a line that is neither space nor tab. A key begins here if no
header does. -/
def begin (s : Scan) (c : Char) : Except Fault Scan :=
  if !s.atStart || c = ' ' || c = '\t' then .ok s
  else if s.header ≠ .none then .ok { s with atStart := false }
  else if c = '=' then .error .malformed
  else .ok { s with atStart := false, key := .inside false }

def inValue (s : Scan) (c : Char) (next : Option Char) (around : Text) : Except Fault Scan := do
  if c = '\n' then s.atLineEnd
  else if s.inComment then return s.put ' '
  else if c = '#' && s.quote.isNone && s.header = .none then
    return { s with inComment := true }.put ' '
  else
    let s := if isQuote c then s.atQuote c around
      else if s.quote.isNone then s.atBracket c next
      else s
    return (← s.begin c).put c

def step (s : Scan) (c : Char) (next : Option Char) (around : Text) : Except Fault Scan :=
  if s.key = .outside then s.inValue c next around else s.inKey c next

def run (around : Text) : Text → Scan → Except Fault Scan
  | [], s => .ok s
  | c :: rest, s =>
    match s.step c rest.head? around with
    | .ok s => run around rest s
    | .error fault => .error fault

end Scan

/-- The lines of a text. No key and no text may be open at its end. -/
def lines (t : Text) : Except Fault (List Text) := do
  let s ← Scan.start.run t.reverse t
  if s.key ≠ .outside || s.quote.isSome then throw .malformed
  return Text.lines s.before.reverse

end LintReport.Toml
