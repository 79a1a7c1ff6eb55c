import LintReport.Lint.Tally
import LintReport.Report.Grouping
import LintReport.Table
import LintReport.Terminal.Painter

/-!
# The layout of a report

A report has one block for each source: a header with the path of the source and a table of its
diagnostics. Blocks stand in the order of their sources and end with an empty line. The tally of all
problems closes the report. A report without problems is empty.
-/

namespace LintReport.Report

/-- The message without the period that it may end in. -/
def dropPeriod (message : Text) : Text :=
  if message.getLast? = some '.' then message.dropLast else message

/-- The cell of a line or a column. Where there is none the cell holds a zero. -/
def coordinate? (v : Value) : Option Text :=
  (v.orElse (.int 0)).text?

def row? (painter : Painter) (d : Diagnostic) : Option (List Text) := do
  let line ← coordinate? d.line
  let column ← coordinate? d.column
  let rule ← (d.rule.orElse (.str [])).text?
  let label := if d.isError then painter.paint .error "error" else painter.paint .warning "warning"
  return [[], line, column, label, dropPeriod d.message, painter.paint .dim rule]

/-- Lines are aligned to the right and columns to the left, so that a colon fits between them. -/
def alignments : List Alignment := [.left, .right, .left]

/-- The line of a table with its first two numbers that stand side by side joined by a colon. -/
def joinPosition (painter : Painter) : Text → Text
  | [] => []
  | c :: rest =>
    let line := (c :: rest).takeWhile Text.isDigit
    let afterLine := (c :: rest).dropWhile Text.isDigit
    let afterBlanks := Text.trimStart afterLine
    let column := afterBlanks.takeWhile Text.isDigit
    if line ≠ [] ∧ afterBlanks.length < afterLine.length ∧ column ≠ [] then
      painter.paint .dim (line ++ ':' :: column) ++ afterBlanks.dropWhile Text.isDigit
    else
      c :: joinPosition painter rest

def table? (painter : Painter) (ds : List Diagnostic) : Option Text := do
  let rows ← ds.mapM (row? painter)
  let table := Table.render Terminal.visibleLength alignments Table.defaultSeparator rows
  return Text.join ['\n'] ((Text.lines table).map (joinPosition painter))

/-- The directory that paths are shown relative to, unless it is no text. -/
def displayStart? (options : Options) (disk : Disk) : Option Text :=
  match options.displayDirectory.orElse (.str disk.workingDirectory) with
  | .str directory => some directory
  | _ => none

/-- The path of a source as it is shown: relative to the display directory. An empty path is shown
as it is. -/
def displayPath (options : Options) (disk : Disk) (source : Text) : Except Fault Text :=
  if source = [] then .ok source
  else
    match displayStart? options disk with
    | some start => .ok ((Path.relative? disk.workingDirectory source start).getD source)
    | none => .error .directoryNotText

def block? (painter : Painter) (header : Text) (ds : List Diagnostic) : Option Text :=
  (table? painter ds).map fun table =>
    painter.paint .underline header ++ ['\n'] ++ table ++ ['\n', '\n']

def counted (n : Nat) (noun : Text) : Text :=
  Decimal.natText n ++ ' ' :: countedNoun noun (.int n)

def tallyText (painter : Painter) (t : Tally) : Text :=
  painter.emphasize t.emphasis
    ("✖ " ++ counted t.total "problem" ++ " (" ++ counted t.errors "error" ++ ", " ++
      counted t.warnings "warning" ++ ")\n")

/-- The groups in the order of their sources. -/
def sorted (groups : Groups) : Groups :=
  groups.mergeSort fun a b => Text.le a.1 b.1

/-- The blocks of groups, up to the first that cannot be written. -/
def blocks (painter : Painter) (display : Text → Except Fault Text) :
    Groups → Except Fault (List Text)
  | [] => .ok []
  | (source, ds) :: rest =>
    match display source with
    | .error fault => .error fault
    | .ok header =>
      match block? painter header ds with
      | none => .error .numberTooLong
      | some block => (blocks painter display rest).map (block :: ·)

def assemble (painter : Painter) (blocks : List Text) (t : Tally) : Text :=
  if t.total = 0 then [] else '\n' :: blocks.flatten ++ tallyText painter t

/-- The text of groups. The diagnostics are counted in the order in which they are written. -/
def render (options : Options) (disk : Disk) (groups : Groups) : Except Fault Text :=
  (blocks ⟨options.colored⟩ (displayPath options disk) (sorted groups)).map fun blocks =>
    assemble ⟨options.colored⟩ blocks (Tally.ofList (Groups.diagnostics (sorted groups)))

end LintReport.Report
