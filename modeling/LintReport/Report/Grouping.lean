import LintReport.Lint.FileReport
import LintReport.Resolver.Lookup

/-!
# Grouping by source

Before a report is written, every diagnostic is taken back to the source that its position comes
from. Diagnostics of the same source form a group, whichever files they were reported for. Groups
stand in the order of their first diagnostic, and the diagnostics of a group in the order of the
report.
-/

namespace LintReport

structure Report.Options where
  colored : Bool
  /-- The directory that paths are shown relative to. The working directory takes its place if it
  does not count as true. -/
  displayDirectory : Value
  /-- Whether positions are taken back to the sources they come from. -/
  sourceMaps : Bool

def Report.Options.standard : Report.Options := ⟨true, .null, true⟩

inductive Report.Fault where
  | lint (fault : Lint.Fault)
  | resolver (fault : Resolver.Fault)
  /-- The display directory is no text. -/
  | directoryNotText
  /-- A line, a column or a rule is a number with more digits than are written. -/
  | numberTooLong
  deriving DecidableEq

abbrev Groups := List (Text × List Diagnostic)

namespace Groups

def insert (source : Text) (d : Diagnostic) : Groups → Groups
  | [] => [(source, [d])]
  | (s, ds) :: rest =>
    if s = source then (s, ds ++ [d]) :: rest else (s, ds) :: insert source d rest

def ofList (located : List (Text × Diagnostic)) : Groups :=
  located.foldl (fun groups entry => insert entry.1 entry.2 groups) []

def diagnostics (groups : Groups) : List Diagnostic :=
  groups.flatMap (·.2)

end Groups

namespace Report

def position (disk : Disk) (path : Text) (d : Diagnostic) : Position :=
  ⟨Path.absolute disk.workingDirectory path, d.line, d.column⟩

/-- The diagnostic at a position, under the source of that position. -/
def relocate (d : Diagnostic) (p : Position) : Text × Diagnostic :=
  (p.source, { d with line := p.line, column := p.column })

def locate (options : Options) (disk : Disk) (cache : Cache) (path : Text) (d : Diagnostic) :
    Work Resolver.Fault (Text × Diagnostic) :=
  let p := position disk path d
  if options.sourceMaps then
    (Resolver.resolve disk cache p).map id (relocate d)
  else
    ⟨.ok (relocate d p), cache, [], []⟩

/-- All diagnostics under their sources, up to the first that cannot be resolved. -/
def locateAll (options : Options) (disk : Disk) (cache : Cache) :
    List (Text × Diagnostic) → Work Resolver.Fault (List (Text × Diagnostic))
  | [] => ⟨.ok [], cache, [], []⟩
  | (path, d) :: rest =>
    (locate options disk cache path d).andThen fun found cache =>
      (locateAll options disk cache rest).map id (found :: ·)

def groupFiles (options : Options) (disk : Disk) (cache : Cache) (files : List FileReport) :
    Work Resolver.Fault Groups :=
  (locateAll options disk cache (FileReport.located files)).map id Groups.ofList

/-- The groups of the diagnostics of a report. Nothing is resolved before the whole report has been
understood. -/
def group (options : Options) (disk : Disk) (cache : Cache) (report : Value) : Work Fault Groups :=
  match FileReport.ofReport report with
  | .error fault => ⟨.error (.lint fault), cache, [], []⟩
  | .ok files => (groupFiles options disk cache files).map .resolver id

end Report

end LintReport
