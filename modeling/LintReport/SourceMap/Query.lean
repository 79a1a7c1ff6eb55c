import LintReport.Bisection
import LintReport.SourceMap.Basic

/-!
# Origins

The question that a source map answers: which position of a source does a generated position come
from? Only mappings of the same generated line are considered. One of them is chosen by its column,
and the answer is taken from it alone: if it leads to no source there is none.
-/

namespace LintReport

structure Origin where
  source : Value
  line : Int
  column : Int
  name : Value

/-- Which mapping is chosen where none has the column that is asked for: the nearest before it or
the nearest after it. -/
inductive Bias where
  | greatestLowerBound
  | leastUpperBound
  deriving DecidableEq

/-- The number two asks for the nearest mapping after a column; all else for the one before it. -/
def Bias.ofValue (v : Value) : Bias :=
  if v.isInt 2 then .leastUpperBound else .greatestLowerBound

inductive QueryFault where
  /-- The line is no integer, or the column is no number. -/
  | notAPosition
  deriving DecidableEq

namespace SourceMap

/-- Whether the mapping at an index stands no further right than the column. -/
def isUpTo (mappings : Array Mapping) (column : Value.Number) (i : Nat) : Bool :=
  mappings[i]?.any fun m => !column.ltInt m.generatedColumn

/-- Whether the mapping at an index stands left of the column. -/
def isBefore (mappings : Array Mapping) (column : Value.Number) (i : Nat) : Bool :=
  mappings[i]?.any fun m => column.gtInt m.generatedColumn

/-- The mapping of a line that is chosen for a column. Of several with the same column the last is
the greatest lower bound, and the first the least upper bound. -/
def choose? (mappings : Array Mapping) (column : Value.Number) : Bias → Option Mapping
  | .greatestLowerBound =>
    match partitionPoint (isUpTo mappings column) 0 mappings.size with
    | 0 => none
    | count + 1 => mappings[count]?
  | .leastUpperBound => mappings[partitionPoint (isBefore mappings column) 0 mappings.size]?

/-- The element of a list at an index that may be negative. A negative index is out of range. -/
def elementAt? (xs : List Value) (i : Int) : Option Value :=
  if i < 0 then none else xs[i.toNat]?

/-- The position that a mapping leads to. It leads nowhere if it has no place in a source, or if its
source is out of range or null. A name out of range is no name. -/
def follow? (sourceMap : SourceMap) (m : Mapping) : Option Origin :=
  match m.place with
  | none => none
  | some p =>
    match elementAt? sourceMap.sources p.source with
    | none => none
    | some .null => none
    | some source =>
      some {
        source
        line := p.line
        column := p.column
        name := (p.name.bind (elementAt? sourceMap.names)).getD .null }

/-- The mappings of the generated line that a number names, if there is such a line. Numbers that
are not integers name no line and must not lie among those that do. -/
def line? (sourceMap : SourceMap) (line : Value.Number) :
    Except QueryFault (Option (Array Mapping)) :=
  if line.ltInt 1 || line.gtInt sourceMap.lines.size then .ok none
  else
    match line with
    | .int n => .ok sourceMap.lines[(n - 1).toNat]?
    | .float _ => .error .notAPosition

/-- The origin of a generated position. A position without line or without column comes
from nowhere. -/
def origin? (sourceMap : SourceMap) (line column : Value) (bias : Bias) :
    Except QueryFault (Option Origin) :=
  match line, column with
  | .null, _ => .ok none
  | _, .null => .ok none
  | line, column =>
    match line.number? with
    | none => .error .notAPosition
    | some line =>
      match sourceMap.line? line with
      | .error fault => .error fault
      | .ok none => .ok none
      | .ok (some mappings) =>
        if mappings.isEmpty then .ok none
        else
          match column.number? with
          | none => .error .notAPosition
          | some column => .ok ((choose? mappings column bias).bind sourceMap.follow?)

end SourceMap

end LintReport
