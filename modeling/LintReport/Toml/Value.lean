import LintReport.Toml.Items
import LintReport.Toml.Key

/-!
# Values of TOML

The value that a text writes: a text in quotes, a list in brackets, a table in braces, or a word. A
list holds values of one kind. A pair adds a value to a table under a key; the tables that the key
leads through are made where there are none.
-/

namespace LintReport.Toml

/-- Whether two values may stand in one list. -/
def sameKind : Value → Value → Bool
  | .bool _, .bool _ => true
  | .int _, .int _ => true
  | .float _, .float _ => true
  | .str _, .str _ => true
  | .list _, .list _ => true
  | .map _, .map _ => true
  | .moment (.time _), .moment (.time _) => true
  | .moment (.time _), .moment _ => false
  | .moment _, .moment (.time _) => false
  | .moment _, .moment _ => true
  | _, _ => false

/-- A text of several lines that is not complete. It is for a name of the table of the last header.
The end of its last line does not count if that line ends in a backslash, which is left out. -/
structure Pending where
  name : Text
  text : Text
  joinsLine : Bool

def Pending.ofLines (name text : Text) : Pending :=
  if endsEscaped text then ⟨name, text.dropLast, true⟩ else ⟨name, text ++ ['\n'], false⟩

/-- What a pair adds to a table: its value, or a text of which more is to come. -/
inductive Added where
  | whole
  | pending (p : Pending)

/-- The result of a change to the table that a path of names leads to, with the tables on the way
made where there are none, and that table in its place. -/
def changeAt {α : Type} (change : Value → Except Fault (Value × α)) :
    (path : List Text) → Value → Except Fault (Value × α)
  | [], v => change v
  | name :: path, .map entries => do
    let (v, a) ← changeAt change path ((Value.named? name entries).getD (.map []))
    return (.map (Value.putEntry (.str name) v entries), a)
  | _ :: _, _ => throw .notATable

/-- The entries of a table that has nothing under a name yet. -/
def entriesWithout (name : Text) : Value → Except Fault (List (Value × Value))
  | .map entries =>
    if (Value.named? name entries).isSome then .error .malformed else .ok entries
  | _ => .error .malformed

/-! ## Lists and tables -/

/-- The values of the items of a list, all of the kind of an earlier one. Empty items do not
count. -/
def elements (read : Text → Except Fault Value) :
    (earlier : Option Value) → (items : List Text) → Except Fault (List Value)
  | _, [] => .ok []
  | earlier, item :: items => do
    let t := Text.trim item
    if t.isEmpty then elements read earlier items
    else
      let v ← read t
      if earlier.any fun first => !sameKind first v then throw .malformed
      return v :: (← elements read (earlier.getD v) items)

def addPair (read : (isSpaced : Bool) → Text → Except Fault Value) (pair : Text) (table : Value) :
    Except Fault (Value × Added) := do
  let found ← cut pair
  let (path, name) ← keyPath found.key
  let change (table : Value) : Except Fault (Value × Added) := do
    if ← isContinued found.value then
      let entries ← entriesWithout name table
      if name.isEmpty then throw .unnamed
      return (.map entries, .pending (.ofLines name found.value))
    else
      let v ← read found.isSpaced found.value
      let entries ← entriesWithout name table
      return (.map (Value.putEntry (.str name) v entries), .whole)
  changeAt change path table

/-- The table with pairs added. What comes after a text that goes on after its line does not
count. -/
def addPairs (read : (isSpaced : Bool) → Text → Except Fault Value) :
    (pairs : List Text) → (table : Value) → Except Fault Value
  | [], table => .ok table
  | pair :: pairs, table => do
    match ← addPair read pair table with
    | (table, .whole) => addPairs read pairs table
    | (table, .pending _) => return table

/-- The value that a text writes. Unless `isSpaced` holds it is no number. Of the room there is, a
list takes up two units and a table three. -/
def value (room : Nat) (isSpaced : Bool) (t : Text) : Except Fault Value :=
  match t, room with
  | [], _ => .error .malformed
  | '[' :: _, room + 2 => do return .list (← elements (value room true) none (← listItems t))
  | '\x7b' :: _, room + 3 => do addPairs (value room) (← tablePairs t) (.map [])
  | '[' :: _, _ | '\x7b' :: _, _ => .error .tooDeep
  | c :: _, _ => if isQuote c then (quotedText c t).map .str else word isSpaced t

end LintReport.Toml
