import LintReport.Calendar
import LintReport.Decimal.Nearest
import LintReport.Decimal.Binary64

/-!
# Values

Lint reports, source maps and settings arrive as values of no fixed shape: what JSON, TOML, YAML and
INI files can hold. A mapping keeps its entries in the order in which their keys first came, and a
key that comes again takes the later value in the earlier place. Keys need not be texts. Bytes, sets
and pairs come from YAML alone, and moments from YAML and TOML.
-/

namespace LintReport

/-- A value as a file holds it. A collection that stands inside of itself is `enclosing` there. -/
inductive Value where
  | null
  | bool (b : Bool)
  | int (n : Int)
  | float (x : Float)
  | str (s : Text)
  | list (xs : List Value)
  | map (entries : List (Value × Value))
  | bytes (bs : List UInt8)
  | moment (m : Calendar.Moment)
  | set (xs : List Value)
  | pair (first second : Value)
  | enclosing (isMap : Bool)
  deriving Inhabited

/-- A number as comparisons see it. -/
inductive Value.Number where
  | int (n : Int)
  | float (x : Decimal.Binary64)

namespace Value

def isText (name : Text) : Value → Bool
  | str s => s = name
  | _ => false

/-- Whether the value counts as true. Null, zero, and all that is empty do not. -/
def truthy : Value → Bool
  | null => false
  | bool b => b
  | int n => n ≠ 0
  | float x => !(Decimal.Binary64.ofFloat x).isZero
  | str s => !s.isEmpty
  | list xs => !xs.isEmpty
  | map entries => !entries.isEmpty
  | bytes bs => !bs.isEmpty
  | set xs => !xs.isEmpty
  | moment _ | pair _ _ | enclosing _ => true

/-- The value itself if it counts as true, and otherwise `other`. -/
def orElse (v other : Value) : Value :=
  if v.truthy then v else other

/-- The number that the value stands for. The truth values count as one and zero. -/
def number? : Value → Option Number
  | bool b => some (.int (if b then 1 else 0))
  | int n => some (.int n)
  | float x => some (.float (Decimal.Binary64.ofFloat x))
  | _ => none

def Number.ltInt : Number → Int → Bool
  | int m, n => m < n
  | float x, n => x.ltInt n

def Number.gtInt : Number → Int → Bool
  | int m, n => n < m
  | float x, n => x.gtInt n

def Number.eqInt : Number → Int → Bool
  | int m, n => m == n
  | float x, n => x.eqInt n

def Number.eq : Number → Number → Bool
  | int m, y => y.eqInt m
  | x, int n => x.eqInt n
  | float x, float y => x.eq y

/-- Whether the value is a number equal to the integer. -/
def isInt (n : Int) (v : Value) : Bool :=
  match v.number? with
  | some x => x.eqInt n
  | none => false

/-- Whether two values are the same key. Collections are no keys. What is not a number is the same
key as itself. -/
def sameKey : Value → Value → Bool
  | null, null => true
  | str s, str t => s = t
  | bytes bs, bytes bs' => bs = bs'
  | moment m, moment m' => m.same m'
  | float x, float y => (Decimal.Binary64.ofFloat x).sameKey (Decimal.Binary64.ofFloat y)
  | v, w =>
    match v.number?, w.number? with
    | some x, some y => x.eq y
    | _, _ => false

def putEntry {α : Type} (key : Value) (a : α) : List (Value × α) → List (Value × α)
  | [] => [(key, a)]
  | (k, b) :: rest => if sameKey k key then (k, a) :: rest else (k, b) :: putEntry key a rest

/-- The mapping with the given entries, the later of two with the same key replacing the earlier. -/
def ofEntries (entries : List (Value × Value)) : Value :=
  map (entries.foldl (fun kept entry => putEntry entry.1 entry.2 kept) [])

def named? (name : Text) : List (Value × Value) → Option Value
  | [] => none
  | (k, v) :: rest => if k.isText name then some v else named? name rest

def namedD (entries : List (Value × Value)) (name : Text) : Value :=
  (named? name entries).getD null

/-- The elements of a value: the elements of a list, the characters of a text, the keys of a
mapping. Other values have none. -/
def elements? : Value → Option (List Value)
  | list xs => some xs
  | str s => some (s.map fun c => str [c])
  | map entries => some (entries.map (·.1))
  | _ => none

end Value

end LintReport
