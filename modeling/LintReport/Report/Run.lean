import LintReport.Report.Layout

/-!
# Making reports

A report is made with the cache of earlier ones, so that the maps of files that were looked at
before are not loaded again.
-/

namespace LintReport.Report

def formatFiles (options : Options) (disk : Disk) (cache : Cache) (files : List FileReport) :
    Work Fault Text :=
  ((groupFiles options disk cache files).map .resolver id).andThen fun groups cache =>
    ⟨render options disk groups, cache, [], []⟩

def tallyFiles (options : Options) (disk : Disk) (cache : Cache) (files : List FileReport) :
    Work Fault Tally :=
  (groupFiles options disk cache files).map .resolver fun groups =>
    Tally.ofList (Groups.diagnostics groups)

/-- The text of a report; empty if there is no problem in it. -/
def format (options : Options) (disk : Disk) (cache : Cache) (report : Value) : Work Fault Text :=
  (group options disk cache report).andThen fun groups cache =>
    ⟨render options disk groups, cache, [], []⟩

def tally (options : Options) (disk : Disk) (cache : Cache) (report : Value) : Work Fault Tally :=
  (group options disk cache report).map id fun groups => Tally.ofList (Groups.diagnostics groups)

end LintReport.Report
