import LintReport.Report.Run

/-!
# Sessions

A formatter makes one report after another with one cache, while the disk may change between them.
Of what it is given some may have been understood before: a file as a whole, or some of the messages
of a file. All else is understood first, before any position is taken back to its source.
-/

namespace LintReport

/-! ## What is given -/

/-- A message as a formatter is given it. -/
inductive Diagnostic.Given where
  | written (v : Value)
  | understood (d : Diagnostic)

def Diagnostic.Given.read : Diagnostic.Given → Except Lint.Fault Diagnostic
  | written v => ofValue v
  | understood d => .ok d

/-- A file as a formatter is given it. -/
inductive FileReport.Given where
  | written (v : Value)
  /-- An object with a list of messages, some of which may have been understood before. -/
  | listing (entries : List (Value × Value)) (messages : List Diagnostic.Given)
  | understood (file : FileReport)

def FileReport.Given.read : FileReport.Given → Except Lint.Fault FileReport
  | written v => ofValue v
  | understood file => .ok file
  | listing entries messages =>
    match pathOf entries with
    | .null => .error .noFilePath
    | path =>
      match messages.mapM Diagnostic.Given.read with
      | .error fault => .error fault
      | .ok diagnostics =>
        match path.text? with
        | none => .error .numberTooLong
        | some path => .ok ⟨path, diagnostics⟩

namespace Report

/-! ## Questions -/

inductive Question where
  | groups
  | text
  | tally

inductive Answer where
  | groups (groups : Groups)
  | text (t : Text)
  | tally (t : Tally)

/-- The groups of the diagnostics of what is given. Nothing is resolved before all of it has been
understood. -/
def groupGiven (options : Options) (disk : Disk) (cache : Cache) (items : List FileReport.Given) :
    Work Fault Groups :=
  match items.mapM FileReport.Given.read with
  | .error fault => ⟨.error (.lint fault), cache, [], []⟩
  | .ok files => (groupFiles options disk cache files).map .resolver id

def ask (options : Options) (disk : Disk) (cache : Cache) (items : List FileReport.Given) :
    Question → Work Fault Answer
  | .groups => (groupGiven options disk cache items).map id .groups
  | .text =>
    (groupGiven options disk cache items).andThen fun groups cache =>
      ⟨(render options disk groups).map .text, cache, [], []⟩
  | .tally =>
    (groupGiven options disk cache items).map id fun groups =>
      .tally (Tally.ofList (Groups.diagnostics groups))

/-! ## Histories -/

inductive Event where
  | ask (question : Question) (items : List FileReport.Given)
  | change (disk : Disk)

structure Session where
  disk : Disk
  cache : Cache

namespace Session

def work? (options : Options) (s : Session) : Event → Option (Work Fault Answer)
  | .ask question items => some (Report.ask options s.disk s.cache items question)
  | .change _ => none

def next (options : Options) (s : Session) : Event → Session
  | .ask question items =>
    { s with cache := (Report.ask options s.disk s.cache items question).cache }
  | .change disk => { s with disk }

/-- Each event of a history with what comes of it. -/
def record (options : Options) : Session → List Event → List (Event × Option (Work Fault Answer))
  | _, [] => []
  | s, e :: rest => (e, s.work? options e) :: record options (s.next options e) rest

end Session

end Report

end LintReport
