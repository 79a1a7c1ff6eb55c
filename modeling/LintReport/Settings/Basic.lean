import LintReport.Terminal.Painter
import LintReport.Text.Lowercase
import LintReport.Text.Blank

/-!
# Settings

The settings of the report: whether source maps are consulted, when colors are used, and which
directory paths are shown relative to. They are made from the entries of a mapping. The name of an
entry counts without regard to case, and with a hyphen for an underscore; of several entries whose
names are the same in this sense the first one counts, and entries with other names do not count.
-/

namespace LintReport

structure Settings where
  sourceMaps : Bool
  color : ColorMode
  displayDirectory : Option Text
  deriving DecidableEq

namespace Settings

def default : Settings := ⟨true, .auto, none⟩

inductive Fault where
  /-- A key that is no text stands where a name is looked for. -/
  | keyNotText
  /-- A key of bytes stands where a name is looked for. -/
  | keyBytes
  /-- No color mode has this name. -/
  | unknownColor (found : Text)
  | numberTooLong
  deriving DecidableEq

/-- The name under which an entry counts. -/
def canonicalName (key : Text) : Text :=
  key.lower.map fun c => if c = '-' then '_' else c

/-- The first entry of a name. All keys up to it have to be texts. -/
def find? (name : Text) : List (Value × Value) → Except Fault (Option Value)
  | [] => .ok none
  | (.str key, v) :: rest => if canonicalName key = name then .ok (some v) else find? name rest
  | (.bytes _, _) :: _ => .error .keyBytes
  | _ => .error .keyNotText

def textOf (v : Value) : Except Fault Text :=
  match v.text? with
  | some t => .ok t
  | none => .error .numberTooLong

/-- The texts that mean no. -/
def refusals : List Text := ["0", "false", "no", "off", ""]

/-- The truth value that a value stands for. All that is not known to mean no means yes. -/
def truth : Value → Except Fault Bool
  | .bool b => .ok b
  | v => (textOf v).map fun t => !refusals.contains (Text.lower (Text.trim t))

def colorMode (v : Value) : Except Fault ColorMode := do
  let name := Text.lower (Text.trim (← textOf v))
  match ColorMode.ofName? name with
  | some mode => return mode
  | none => throw (.unknownColor name)

/-- The directory that a value names. A value that does not count as true names none. -/
def directory (v : Value) : Except Fault (Option Text) :=
  if v.truthy then (textOf v).map some else .ok none

def ofEntries (entries : List (Value × Value)) : Except Fault Settings := do
  let color ← colorMode ((← find? "color" entries).getD (.str ColorMode.auto.name))
  let shown := (← find? "cwd" entries).getD .null
  let sourceMaps ← truth ((← find? "source_maps" entries).getD (.bool true))
  return ⟨sourceMaps, color, ← directory shown⟩

end Settings

end LintReport
