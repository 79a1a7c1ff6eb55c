import LintReport.Lint.Diagnostic

/-!
# Tallies

How many problems there are, and how many of them are errors and warnings.
-/

namespace LintReport

/-- The numbers of problems. The emphasis is the level in which the numbers are shown. -/
structure Tally where
  total : Nat
  errors : Nat
  warnings : Nat
  emphasis : Text
  deriving DecidableEq

namespace Tally

def empty : Tally := ⟨0, 0, 0, "warning"⟩

/-- The tally with one more diagnostic. From the first error on, the numbers are shown as errors. -/
def add (t : Tally) (d : Diagnostic) : Tally :=
  if d.isError then
    { t with total := t.total + 1, errors := t.errors + 1, emphasis := "error" }
  else
    { t with total := t.total + 1, warnings := t.warnings + 1 }

def ofList (ds : List Diagnostic) : Tally :=
  ds.foldl add empty

/-- The tallies after each of the diagnostics. -/
def running (t : Tally) : List Diagnostic → List Tally
  | [] => []
  | d :: rest => t.add d :: running (t.add d) rest

end Tally

def countedNoun (noun : Text) (count : Value) : Text :=
  if count.isInt 1 then noun else noun ++ ['s']

end LintReport
