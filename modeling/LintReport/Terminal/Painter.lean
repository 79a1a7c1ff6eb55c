import LintReport.Terminal.Escape
import LintReport.Value.Shown

/-!
# Painting

A painter puts control sequences around a text, or leaves the text alone where colors are not
wanted. What is wanted is said by a color mode, by the environment and by the kind of output.
-/

namespace LintReport

inductive Paint where
  | underline
  | error
  | warning
  | dim
  | bold
  deriving DecidableEq

def Paint.start : Paint → Nat
  | underline => 4
  | error => 31
  | warning => 33
  | dim => 90
  | bold => 1

def Paint.stop : Paint → Nat
  | underline => 24
  | error => 39
  | warning => 39
  | dim => 39
  | bold => 22

/-- The paint of a level: that of errors for the level of this name, and that of warnings for any
other. -/
def Paint.ofLevel (level : Text) : Paint :=
  if level = "error" then error else warning

structure Painter where
  enabled : Bool
  deriving DecidableEq

namespace Painter

def paint (painter : Painter) (p : Paint) (t : Text) : Text :=
  if painter.enabled then
    Terminal.rendition p.start ++ t ++ Terminal.rendition p.stop
  else t

def level (painter : Painter) (level t : Text) : Text :=
  painter.paint (Paint.ofLevel level) t

/-- The text painted for a level, in bold. -/
def emphasize (painter : Painter) (level t : Text) : Text :=
  painter.level level (painter.paint .bold t)

end Painter

/-! ## Choosing colors -/

inductive ColorMode where
  | auto
  | always
  | never
  deriving DecidableEq

namespace ColorMode

/-- All modes, in the order in which messages list them. -/
def all : List ColorMode := [auto, always, never]

def name : ColorMode → Text
  | auto => "auto"
  | always => "always"
  | never => "never"

def ofName? (t : Text) : Option ColorMode :=
  all.find? fun mode => mode.name = t

def quotedNames : Text :=
  Text.join ", " (all.map fun mode => mode.name.quoted)

def expectation : Text :=
  ", expected one of (" ++ quotedNames ++ ")"

end ColorMode

/-- The variables that are set for the program, by name. -/
abbrev Environment := List (Text × Text)

namespace Environment

def get (environment : Environment) (name : Text) : Text :=
  (environment.lookup name).getD []

/-- The variables that switch colors off if they are not empty. -/
def colorSwitches : List Text := ["NO_COLOR", "STYLISH_MAPPED_NO_COLOR"]

def refusesColor (environment : Environment) : Bool :=
  colorSwitches.any fun name => !(environment.get name).isEmpty

end Environment

inductive Output where
  | terminal
  | other
  deriving DecidableEq

namespace Painter

/-- The painter for an output. Only in the automatic mode do output and environment matter. -/
def forOutput (environment : Environment) (output : Output) : ColorMode → Painter
  | .always => ⟨true⟩
  | .never => ⟨false⟩
  | .auto => ⟨!environment.refusesColor && output = .terminal⟩

inductive Fault where
  /-- No mode has this name. -/
  | unknownMode (found : Text)
  | numberTooLong
  deriving DecidableEq

/-- The painter for an output, where the mode is given as a value. -/
def forMode (environment : Environment) (output : Output) (mode : Value) : Except Fault Painter :=
  let known := match mode with
    | .str name => ColorMode.ofName? name
    | _ => none
  match known, mode.shown? with
  | some mode, _ => .ok (forOutput environment output mode)
  | none, some found => .error (.unknownMode found)
  | none, none => .error .numberTooLong

end Painter

def ColorMode.unknownMessage (found : Text) : Text :=
  "Unknown color mode " ++ found ++ expectation

end LintReport
