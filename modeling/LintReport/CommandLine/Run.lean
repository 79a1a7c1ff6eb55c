import LintReport.CommandLine.Arguments
import LintReport.Report.Run
import LintReport.Settings.Load

/-!
# Running the command

A run loads settings, reads a report of a linter, and writes its diagnostics to the standard output
or to a file. The exit code tells whether there are errors among them. Faults of the command line,
of settings and of the report are told to the user; all others are failures of the program.
-/

namespace LintReport.CommandLine

/-- What the standard input holds: a text, or bytes that are none. -/
inductive StandardInput where
  | text (t : Text)
  | notText

instance : Coe Text StandardInput := ⟨.text⟩

structure Invocation where
  words : List Text
  standardInput : StandardInput
  disk : Disk
  environment : Environment
  output : Output

inductive InputFault where
  /-- The file or the standard input cannot be read. -/
  | disk (fault : Disk.Fault)
  | json (fault : Json.Fault)
  | notAList
  | lint (fault : Lint.Fault)
  deriving DecidableEq

inductive Fault where
  | usage (fault : UsageFault)
  | settings (fault : Settings.LoadFault)
  | input (path : Text) (fault : InputFault)
  | report (fault : Report.Fault)
  | writing (fault : Disk.WriteFault)
  deriving DecidableEq

namespace InputFault

/-- Whether the user is told. An infinite severity and a text that is nested too deep are not
foreseen. -/
def isTold : InputFault → Bool
  | lint (.severity .infinite) | json .tooDeep => false
  | _ => true

def detail? : InputFault → Option Text
  | notAList => some "expected a JSON array of lint results"
  | lint .noFilePath => some "'filePath'"
  | lint .noMessage => some "'message'"
  | _ => none

end InputFault

namespace Fault

def isTold : Fault → Bool
  | usage _ => true
  | settings fault => fault.isTold
  | input _ fault => fault.isTold
  | report _ | writing _ => false

def message? : Fault → Option Text
  | usage fault => some fault.message
  | settings fault => fault.message?
  | input path fault =>
    fault.detail?.map fun detail => "invalid lint results in " ++ path ++ ": " ++ detail
  | report _ | writing _ => none

end Fault

/-! ## Exit codes -/

/-- The exit code of a run that was told to do something impossible. -/
def usageCode : Nat := 2

def exitCode (t : Tally) : Nat :=
  if t.errors = 0 then 0 else 1

structure Outcome where
  code : Nat
  printed : Text
  written : Option (Text × Text)
  deriving DecidableEq

/-! ## Steps -/

def StandardInput.read : StandardInput → Except Disk.Fault Text
  | text t => .ok t
  | notText => .error .notText

def readReport (call : Invocation) (path : Text) : Except InputFault Text :=
  (if path = standardInputPath then call.standardInput.read else call.disk.read path).mapError .disk

/-- The files of a report, which is nested no deeper than `depth`. A report of blanks has none. -/
def parseReport (depth : Nat) (t : Text) : Except InputFault (List FileReport) :=
  if (Text.trim t).isEmpty then .ok []
  else
    match Json.read t depth with
    | .error fault => .error (.json fault)
    | .ok (.list files) => (FileReport.ofValues files).mapError .lint
    | .ok _ => .error .notAList

def Invocation.files (call : Invocation) (path : Text) : Except InputFault (List FileReport) :=
  (readReport call path).bind (parseReport call.disk.room.report)

/-- The settings with those replaced that the command line decides. -/
def Arguments.override (a : Arguments) (s : Settings) : Settings :=
  { s with sourceMaps := s.sourceMaps && !a.noSourceMaps, color := a.color.getD s.color }

/-- Where the report goes to, as far as it matters for colors: a file is no terminal. -/
def Arguments.destination (a : Arguments) (output : Output) : Output :=
  if a.output.isEmpty then output else .other

def Invocation.options (call : Invocation) (a : Arguments) (s : Settings) : Report.Options :=
  ⟨(Painter.forOutput call.environment (a.destination call.output) s.color).enabled,
    (s.displayDirectory.map .str).getD .null, s.sourceMaps⟩

/-- The report on files and the tally of their diagnostics. The positions are resolved once for the
report and again for the tally, then with the cache that the report has left behind. -/
def makeReport (options : Report.Options) (disk : Disk) (files : List FileReport) :
    Except Report.Fault (Text × Tally) := do
  let formatted := Report.formatFiles options disk Cache.empty files
  let text ← formatted.result
  let t ← (Report.tallyFiles options disk formatted.cache files).result
  return (text, t)

def deliver (call : Invocation) (a : Arguments) (text : Text) (t : Tally) : Except Fault Outcome :=
  if a.output.isEmpty then .ok ⟨exitCode t, text, none⟩
  else
    match call.disk.write a.output text with
    | .ok disk => .ok ⟨exitCode t, [], some (disk.locate a.output, text)⟩
    | .error fault => .error (.writing fault)

def runReport (call : Invocation) (a : Arguments) : Except Fault Outcome := do
  let settings ← ((Settings.load call.disk a.config).result).mapError .settings
  let files ← (call.files a.report).mapError (.input a.report)
  let options := call.options a (a.override settings)
  let (text, t) ← (makeReport options call.disk files).mapError .report
  deliver call a text t

def run (call : Invocation) : Except Fault Outcome :=
  match Request.ofTexts call.words with
  | .error fault => .error (.usage fault)
  | .ok .help => .ok ⟨0, helpText, none⟩
  | .ok (.report a) => runReport call a

/-- The exit code of a run that fails, if it does so by telling the user. -/
def Fault.code? (fault : Fault) : Option Nat :=
  if fault.isTold then some usageCode else none

def Fault.phrase : Fault → Text
  | usage _ => "the command line is not understood"
  | settings _ => "the settings cannot be read"
  | input path _ => "invalid lint results in " ++ path
  | report _ => "the report cannot be made"
  | writing _ => "the report cannot be written"

def Fault.notice (fault : Fault) : Text :=
  (if fault.isTold then (helpLines.take 3).flatMap (· ++ ['\n']) else []) ++
    "stylish-mapped: error: " ++ fault.message?.getD fault.phrase ++ ['\n']

end LintReport.CommandLine
