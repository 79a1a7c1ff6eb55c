import LintReport.Terminal.Painter

/-!
# Loggers

Each part of the program has a logger under its name. A logger is made when it is first asked for,
and it is set up while it has no handler: it gets one, its level is what the environment says at
that time, and it passes nothing on.
-/

namespace LintReport

/-- How grave a record has to be to be written. -/
inductive Log.Level where
  /-- The level of a logger that was given none. -/
  | unset
  | debug
  | info
  | warning
  | error
  | critical
  deriving DecidableEq

structure Logger where
  name : Text
  level : Log.Level
  handlers : Nat
  propagates : Bool
  deriving DecidableEq

namespace Log

namespace Level

/-- All levels that can be asked for. -/
def all : List Level := [debug, info, warning, error, critical]

def name : Level → Text
  | unset => "NOTSET"
  | debug => "DEBUG"
  | info => "INFO"
  | warning => "WARNING"
  | error => "ERROR"
  | critical => "CRITICAL"

/-- The capital of a letter of a name of a level. Besides the small letters of ASCII only the
dotless i has a capital that stands in such a name. -/
def capital (c : Char) : Char :=
  if c.toNat = 0x131 then 'I' else c.toUpper

/-- The level that a text names, in any case. -/
def ofName? (t : Text) : Option Level :=
  all.find? fun level => level.name = t.map capital

end Level

def format : Text := "%(asctime)s %(levelname)s [%(name)s] %(message)s"

def timeFormat : Text := "%Y-%m-%d %H:%M:%S"

/-- The name of the logger above all others. -/
def rootName : Text := "stylish_mapped"

def levelVariable : Text := "STYLISH_MAPPED_LOG"

/-- What stands before the name of a part in the whole name of its logger. -/
def partStart : Text := rootName ++ ['.']

/-- The name of the part whose logger is asked for by a name, which may be whole already. -/
def partName (name : Text) : Text :=
  (Text.dropStart? partStart name).getD name

/-- The whole name of the logger that is asked for by a name. Without the name of a part it is the
logger above all others. -/
def wholeName (name : Text) : Text :=
  if (partName name).isEmpty then rootName else partStart ++ partName name

def newLevel (environment : Environment) : Level :=
  (Level.ofName? (environment.get levelVariable)).getD .info

/-! ## One logger -/

/-- A logger as it is made: without a level or a handler, and passing everything on. -/
def fresh (name : Text) : Logger := ⟨name, .unset, 0, true⟩

/-- The logger set up in an environment. A logger with a handler was set up before. -/
def setUp (environment : Environment) (logger : Logger) : Logger :=
  if logger.handlers = 0 then
    { logger with
      level := newLevel environment, handlers := logger.handlers + 1, propagates := false }
  else logger

/-! ## All loggers -/

abbrev Registry := List Logger

namespace Registry

def get? (loggers : Registry) (name : Text) : Option Logger :=
  loggers.find? fun logger => logger.name = name

def put (logger : Logger) : Registry → Registry
  | [] => [logger]
  | other :: rest => if other.name = logger.name then logger :: rest else other :: put logger rest

end Registry

/-- The logger of a name, and all loggers afterwards. -/
def request (environment : Environment) (name : Text) (loggers : Registry) : Logger × Registry :=
  let whole := wholeName name
  let logger := setUp environment ((loggers.get? whole).getD (fresh whole))
  (logger, Registry.put logger loggers)

/-! ## Requests over time -/

inductive Event where
  | request (name : Text)
  | change (environment : Environment)

structure State where
  environment : Environment
  loggers : Registry

namespace State

def start (environment : Environment) : State := ⟨environment, []⟩

/-- The logger that is handed out to whoever asks by a name. -/
def handed (s : State) (name : Text) : Logger :=
  (Log.request s.environment name s.loggers).1

def next (s : State) : Event → State
  | .request name => { s with loggers := (Log.request s.environment name s.loggers).2 }
  | .change environment => { s with environment }

def after (s : State) (events : List Event) : State :=
  events.foldl next s

@[simp] theorem after_nil (s : State) : s.after [] = s := rfl

@[simp] theorem after_cons (s : State) (e : Event) (events : List Event) :
    s.after (e :: events) = (s.next e).after events := rfl

end State

end Log

end LintReport
