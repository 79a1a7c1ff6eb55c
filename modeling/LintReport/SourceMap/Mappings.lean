import LintReport.Decimal.Integer
import LintReport.SourceMap.Vlq

/-!
# Mappings

The mappings of a source map are lists of segments, one list for each generated line. A segment
writes one, four or five integers, each of them the difference to its predecessor: the generated
column within its line, the others across the whole text. Reading is done in two stages that meet at
the segments: the text is cut into segments, which can fail, and the differences are summed up,
which cannot. Writing takes the same stages backwards.
-/

namespace LintReport

/-- A place in a source: the number of the source, and the number of a name if there is
one. In a mapping the line counts from one; in a segment all fields are differences. -/
structure Place where
  source : Int
  line : Int
  column : Int
  name : Option Int
  deriving DecidableEq

/-- One mapping: a column of a generated line, and the place in a source that it came from, if there
is one. Lines count from one and columns from zero. -/
structure Mapping where
  generatedLine : Nat
  generatedColumn : Int
  place : Option Place
  deriving DecidableEq

/-- One mapping as it is written, in differences. -/
structure Segment where
  column : Int
  place : Option Place
  deriving DecidableEq

def Segment.ofFields? : List Int → Option Segment
  | [column] => some ⟨column, none⟩
  | [column, source, line, sourceColumn] => some ⟨column, some ⟨source, line, sourceColumn, none⟩⟩
  | [column, source, line, sourceColumn, name] =>
    some ⟨column, some ⟨source, line, sourceColumn, some name⟩⟩
  | _ => none

def Segment.fields (s : Segment) : List Int :=
  match s.place with
  | none => [s.column]
  | some p => s.column :: p.source :: p.line :: p.column :: p.name.toList

namespace Mappings

inductive Fault where
  | quantity (fault : Vlq.Fault)
  | fieldCount (segment : Text) (count : Nat)
  deriving DecidableEq

def Fault.message : Fault → Text
  | quantity fault => fault.message
  | fieldCount segment count =>
    "Segment " ++ Text.quoted segment ++ " has " ++ Decimal.natText count ++
      " fields, expected 1, 4 or 5"

/-! ## Text and segments -/

def readSegment (t : Text) : Except Fault Segment :=
  match Vlq.decode t with
  | .error fault => .error (.quantity fault)
  | .ok fields =>
    match Segment.ofFields? fields with
    | some s => .ok s
    | none => .error (.fieldCount t fields.length)

/-- The segments that the texts write, up to the first that writes none. -/
def readSegments : List Text → Except Fault (List Segment)
  | [] => .ok []
  | t :: rest =>
    match readSegment t with
    | .error fault => .error fault
    | .ok s => (readSegments rest).map (s :: ·)

/-- The texts of the segments of a line. Empty segments are passed over. -/
def segmentTexts (line : Text) : List Text :=
  (Text.split ',' line).filter fun t => !t.isEmpty

/-- The segments of the lines, up to the first text that writes none. -/
def readLines : List Text → Except Fault (List (List Segment))
  | [] => .ok []
  | line :: rest =>
    match readSegments (segmentTexts line) with
    | .error fault => .error fault
    | .ok segments => (readLines rest).map (segments :: ·)

def read (t : Text) : Except Fault (List (List Segment)) :=
  readLines (Text.split ';' t)

def write (lines : List (List Segment)) : Text :=
  Text.join [';'] (lines.map fun line => Text.join [','] (line.map fun s => Vlq.encode s.fields))

/-! ## Segments and mappings -/

/-- The sums of all differences so far. -/
structure Totals where
  source : Int
  line : Int
  column : Int
  name : Int
  deriving DecidableEq

def Totals.zero : Totals := ⟨0, 0, 0, 0⟩

def Totals.add (t : Totals) (p : Place) : Totals :=
  ⟨t.source + p.source, t.line + p.line, t.column + p.column, t.name + p.name.getD 0⟩

def Totals.place (t : Totals) (named : Bool) : Place :=
  ⟨t.source, t.line + 1, t.column, if named then some t.name else none⟩

/-- The sums that lead to a place, given those before it. -/
def Totals.moveTo (t : Totals) (p : Place) : Totals :=
  ⟨p.source, p.line - 1, p.column, p.name.getD t.name⟩

def Totals.differences (t : Totals) (p : Place) : Place :=
  ⟨p.source - t.source, p.line - 1 - t.line, p.column - t.column, p.name.map (· - t.name)⟩

/-- The mappings of a line in their textual order, and the sums after it. -/
def sumLine (line : Nat) (totals : Totals) (column : Int) : List Segment → List Mapping × Totals
  | [] => ([], totals)
  | s :: rest =>
    let column := column + s.column
    match s.place with
    | none =>
      let (mappings, after) := sumLine line totals column rest
      (⟨line, column, none⟩ :: mappings, after)
    | some p =>
      let totals := totals.add p
      let (mappings, after) := sumLine line totals column rest
      (⟨line, column, some (totals.place p.name.isSome)⟩ :: mappings, after)

def sumLines (line : Nat) (totals : Totals) : List (List Segment) → List (List Mapping)
  | [] => []
  | segments :: rest =>
    let (mappings, after) := sumLine line totals 0 segments
    mappings :: sumLines (line + 1) after rest

/-- The segments of a line, and the sums after it. -/
def differLine (totals : Totals) (column : Int) : List Mapping → List Segment × Totals
  | [] => ([], totals)
  | m :: rest =>
    match m.place with
    | none =>
      let (segments, after) := differLine totals m.generatedColumn rest
      (⟨m.generatedColumn - column, none⟩ :: segments, after)
    | some p =>
      let (segments, after) := differLine (totals.moveTo p) m.generatedColumn rest
      (⟨m.generatedColumn - column, some (totals.differences p)⟩ :: segments, after)

def differLines (totals : Totals) : List (List Mapping) → List (List Segment)
  | [] => []
  | mappings :: rest =>
    let (segments, after) := differLine totals 0 mappings
    segments :: differLines after rest

/-- The mappings of a line in the order of their generated columns. Mappings of the same column keep
their textual order. -/
def sortLine (mappings : List Mapping) : List Mapping :=
  mappings.mergeSort fun a b => a.generatedColumn ≤ b.generatedColumn

/-! ## Text and mappings -/

/-- The mappings that a text writes, one list for each generated line, in the order of their
generated columns. -/
def parse (t : Text) : Except Fault (List (List Mapping)) :=
  (read t).map fun lines => (sumLines 1 .zero lines).map sortLine

/-- The standard form of mappings, one list for each generated line. -/
def encode (lines : List (List Mapping)) : Text :=
  write (differLines .zero lines)

end Mappings

end LintReport
