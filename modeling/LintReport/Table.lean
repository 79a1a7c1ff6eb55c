import LintReport.Text.Blank
import LintReport.Value.Shown

/-!
# Tables

Rows of cells are laid out in columns. Every column is as wide as its widest cell, where the width
of a cell is measured by a function of the caller's choice, and a row may have fewer cells than
there are columns. Blanks at the end of a row are dropped.
-/

namespace LintReport

/-- On which side of a cell its column is filled up. -/
inductive Alignment where
  | left
  | right
  | center
  deriving DecidableEq

/-- The alignment that a hint asks for. A hint that is none asks for the left. -/
def Alignment.ofHint (hint : Text) : Alignment :=
  if hint = ['r'] then right else if hint = ['c'] then center else left

namespace Table

/-- The greater of two widths at each column, where a list that ends early has no more columns. -/
def maxWidths : List Nat → List Nat → List Nat
  | a :: as, b :: bs => max a b :: maxWidths as bs
  | [], bs => bs
  | as, [] => as

def widths (measure : Text → Nat) : List (List Text) → List Nat
  | [] => []
  | row :: rows => maxWidths (row.map measure) (widths measure rows)

def spaces (n : Nat) : Text :=
  List.replicate n ' '

/-- A cell filled up with `gap` spaces. If a centered cell cannot stand in the middle, it stands
nearer to the left. -/
def fill (alignment : Alignment) (gap : Nat) (cell : Text) : Text :=
  match alignment with
  | .left => cell ++ spaces gap
  | .right => spaces gap ++ cell
  | .center => spaces (gap / 2) ++ cell ++ spaces (gap - gap / 2)

/-- The cells of a row filled up to the widths of their columns. Columns without an alignment are
aligned to the left. -/
def fillRow (measure : Text → Nat) : List Alignment → List Nat → List Text → List Text
  | alignments, width :: widths, cell :: cells =>
    fill (alignments.head?.getD .left) (width - measure cell) cell ::
      fillRow measure alignments.tail widths cells
  | _, _, _ => []

def renderRow (measure : Text → Nat) (alignments : List Alignment) (separator : Text)
    (widths : List Nat) (row : List Text) : Text :=
  Text.trimEnd (Text.join separator (fillRow measure alignments widths row))

def render (measure : Text → Nat) (alignments : List Alignment) (separator : Text)
    (rows : List (List Text)) : Text :=
  Text.join ['\n'] (rows.map (renderRow measure alignments separator (widths measure rows)))

def defaultSeparator : Text := "  "

/-! ## Cells from values -/

inductive Fault where
  | notRows
  | numberTooLong
  deriving DecidableEq

def cells (row : Value) : Except Fault (List Text) :=
  match row.elements? with
  | none => .error .notRows
  | some values =>
    match values.mapM Value.text? with
    | some texts => .ok texts
    | none => .error .numberTooLong

/-- The rows of a table, up to the first that is none. -/
def rows : List Value → Except Fault (List (List Text))
  | [] => .ok []
  | row :: rest =>
    match cells row with
    | .error fault => .error fault
    | .ok texts => (rows rest).map (texts :: ·)

end Table

end LintReport
