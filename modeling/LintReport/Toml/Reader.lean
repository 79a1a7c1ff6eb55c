import LintReport.Toml.Lines
import LintReport.Toml.Value
import LintReport.Value.Shown

/-!
# TOML files

A line of a TOML file is a pair of a key and a value, the header of a table, or the header of an
element of a list of tables. Pairs belong to the table of the last header. A header may name each
table once, but a table that is there only because a header led through it may be named later.
-/

namespace LintReport.Toml

/-- A step down from a value: to what a table has under a name, or to the last element of a list. -/
inductive Step where
  | name (t : Text)
  | last

/-- The result of a change to the value that a path of steps leads to, and that value in its
place. -/
def changeAlong {α : Type} (change : Value → Except Fault (Value × α)) :
    (path : List Step) → Value → Except Fault (Value × α)
  | [], v => change v
  | .name name :: path, .map entries => do
    let (v, a) ← changeAlong change path (Value.namedD entries name)
    return (.map (Value.putEntry (.str name) v entries), a)
  | .last :: path, .list elements => do
    let (v, a) ← changeAlong change path (elements.getLast?.getD .null)
    return (.list (elements.dropLast ++ [v]), a)
  | _ :: _, _ => throw .notATable

/-! ## Headers -/

structure Opened where
  document : Value
  place : List Step
  implied : List Text

/-- The same, seen from the value that one more step leads to. -/
def Opened.within (opened : Opened) (step : Step) (document : Value) : Opened :=
  { opened with document, place := step :: opened.place }

/-- What a header adds where nothing has its name. -/
def fresh (isElement isLast : Bool) : Value :=
  if isElement && isLast then .list [.map []] else .map []

/-- What a header that ends in a name finds under it among these entries, and the implied names that
are left. -/
def reopen (isElement : Bool) (name : Text) (found : Value) (implied : List Text)
    (entries : List (Value × Value)) : Except Fault (Value × List Text) :=
  if implied.contains name then
    if isElement then .error .malformed else .ok (found, implied.erase name)
  else if isElement then
    match found with
    | .list elements => .ok (.list (elements ++ [.map []]), implied)
    | _ => .error .notAList
  else if (Value.map entries).shown?.isNone then .error .numberTooLong
  else .error .malformed

/-- What the names of a header lead to from a value. In a list of tables the way goes on in the last
one, and a header of an element goes there at every list. -/
def openHeader (isElement : Bool) : (names : List Text) → (implied : List Text) → Value →
    Except Fault Opened
  | [], implied, v => .ok ⟨v, [], implied⟩
  | name :: names, implied, v => do
    let isLast := names.isEmpty
    let below (implied : List Text) (found : Value) : Except Fault Opened := do
      match isElement, found with
      | true, .list elements =>
        match elements.getLast? with
        | none => throw .beyondEnd
        | some v =>
          let opened ← openHeader isElement names implied v
          return opened.within .last (.list (elements.dropLast ++ [opened.document]))
      | true, .str [] => throw .beyondEnd
      | true, .map _ | true, .str _ => openHeader isElement names implied found
      | true, _ => throw .notATable
      | false, _ => openHeader isElement names implied found
    let put (entries : List (Value × Value)) (opened : Opened) : Opened :=
      opened.within (.name name) (.map (Value.putEntry (.str name) opened.document entries))
    if name.isEmpty then throw .malformed
    match v with
    | .map entries =>
      match Value.named? name entries with
      | none =>
        let implied := if isLast then implied else implied ++ [name]
        return put entries (← below implied (fresh isElement isLast))
      | some found =>
        let (found, implied) ←
          if isLast then reopen isElement name found implied entries else .ok (found, implied)
        return put entries (← below implied found)
    | .list elements =>
      match elements.getLast? with
      | none => throw .beyondEnd
      | some (.map entries) =>
        let found := (Value.named? name entries).getD (fresh isElement isLast)
        let opened := put entries (← below implied found)
        return opened.within .last (.list (elements.dropLast ++ [opened.document]))
      | some _ => throw .notATable
    | .str [] => throw .beyondEnd
    | _ => throw .notATable

/-! ## Documents -/

structure Document where
  table : Value
  place : List Step
  implied : List Text
  pending : Option Pending

namespace Document

def start : Document := ⟨.map [], [], [], none⟩

/-- Whether a value that goes on is closed by its last line: a list by a bracket, and a text by
three quotes. -/
def isClosedBy (line t : Text) : Except Fault Bool :=
  if t.head? = some '[' then
    match line.getLast? with
    | none => .error .beyondEnd
    | some c => .ok (c = ']')
  else .ok (2 < line.length && (line.reverse.take 3).all fun c => t.head? = some c)

def putValue (name : Text) (v : Value) : Value → Except Fault (Value × Unit)
  | .map entries => .ok (.map (Value.putEntry (.str name) v entries), ())
  | _ => .error .notATable

/-- The document after one more line of a text that goes on. Blanks around a line do not count up to
the first line break of the text. -/
def goOn (room : Nat) (d : Document) (p : Pending) (line : Text) : Except Fault Document := do
  let line := if p.joinsLine || !p.text.contains '\n' then Text.trim line else line
  if line.isEmpty && p.joinsLine then return d
  let t := p.text ++ line
  if ← isClosedBy line t then
    let v ← value room true t
    let (table, _) ← changeAlong (putValue p.name v) d.place d.table
    return { d with table, pending := none }
  else return { d with pending := some (Pending.ofLines p.name t) }

def enter (d : Document) (line : Text) : Except Fault Document := do
  let (isElement, names) ← header line
  let opened ← openHeader isElement names d.implied d.table
  return ⟨opened.document, opened.place, opened.implied, none⟩

/-- The document after pairs in braces that stand on a line of their own. -/
def addBraced (room : Nat) (d : Document) (line : Text) : Except Fault Document := do
  if line.getLast? ≠ some '\x7d' then throw .malformed
  let change (v : Value) : Except Fault (Value × Unit) := do
    return (← addPairs (value room) (← tablePairs line) v, ())
  let (table, _) ← changeAlong change d.place d.table
  return { d with table }

def add (room : Nat) (d : Document) (line : Text) : Except Fault Document := do
  let (table, added) ← changeAlong (addPair (value room) line) d.place d.table
  match added with
  | .whole => return { d with table }
  | .pending p => return { d with table, pending := some p }

/-- The document after one more line. A line that is neither a header nor a pair does not count. -/
def addLine (room : Nat) (d : Document) (line : Text) : Except Fault Document :=
  match d.pending with
  | some p => d.goOn room p line
  | none =>
    let line := Text.trim line
    match line.head? with
    | some '[' => d.enter line
    | some '\x7b' => d.addBraced room line
    | _ => if line.contains '=' then d.add room line else .ok d

end Document

/-- The entries of the table that a text writes, where each value has as much room for what is
nested in it. A text that goes on at the end is left out. -/
def read (room : Nat) (t : Text) : Except Fault (List (Value × Value)) := do
  let d ← (← lines t).foldlM (Document.addLine room) .start
  match d.table with
  | .map entries => return entries
  | _ => return []

end LintReport.Toml
