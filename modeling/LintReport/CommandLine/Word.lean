import LintReport.Text.Digit
import LintReport.Text.Quoted

/-!
# Words of a command line

A word of a command line is an option or plain. The long name of an option may be cut short as long
as no other option begins like this, and a value may be joined to the option: with an equals sign
after a long or a short name, or without one after a short name. Behind the word `--` all words are
plain.
-/

namespace LintReport.CommandLine

inductive Flag where
  | help
  | config
  | noSourceMaps
  | color
  | output
  deriving DecidableEq

namespace Flag

/-- All options, in the order in which messages list them. -/
def all : List Flag := [help, config, noSourceMaps, color, output]

def letter? : Flag → Option Char
  | help => some 'h'
  | config => some 'c'
  | output => some 'o'
  | _ => none

def longName : Flag → Text
  | help => "--help"
  | config => "--config"
  | noSourceMaps => "--no-source-maps"
  | color => "--color"
  | output => "--output"

def takesValue : Flag → Bool
  | config | color | output => true
  | _ => false

def names (flag : Flag) : List Text :=
  (flag.letter?.map fun c => ['-', c]).toList ++ [flag.longName]

def shown (flag : Flag) : Text :=
  Text.join ['/'] flag.names

def ofLetter? (c : Char) : Option Flag :=
  all.find? fun flag => flag.letter? = some c

def ofName? (name : Text) : Option Flag :=
  all.find? fun flag => flag.names.contains name

end Flag

inductive Joined where
  | nothing
  /-- After an equals sign. -/
  | assigned (value : Text)
  /-- Right after a short name. -/
  | attached (value : Text)
  deriving DecidableEq

inductive Word where
  | plain (t : Text)
  | separator
  | option (flag : Flag) (joined : Joined)
  /-- A word that looks like an option but is none. -/
  | unknown (t : Text)
  deriving DecidableEq

inductive UsageFault where
  | ambiguous (word : Text) (candidates : List Flag)
  | unrecognized (words : List Text)
  | valueMissing (flag : Flag)
  | valueRefused (flag : Flag) (value : Text)
  | unknownChoice (flag : Flag) (value : Text) (choices : Text)
  deriving DecidableEq

namespace UsageFault

def isAboutFlag : UsageFault → Bool
  | ambiguous _ _ | unrecognized _ => false
  | _ => true

def message : UsageFault → Text
  | ambiguous word candidates =>
    "ambiguous option: " ++ word ++ " could match " ++
      Text.join ", " (candidates.map Flag.longName)
  | unrecognized words => "unrecognized arguments: " ++ Text.join [' '] words
  | valueMissing flag => about flag "expected one argument"
  | valueRefused flag value => about flag ("ignored explicit argument " ++ value.quoted)
  | unknownChoice flag value choices =>
    about flag ("invalid choice: " ++ value.quoted ++ " (choose from " ++ choices ++ ")")
where
  about (flag : Flag) (said : Text) : Text :=
    "argument " ++ flag.shown ++ ": " ++ said

end UsageFault

namespace Word

/-- The word behind which all words are plain. -/
def separatorText : Text := "--"

def isNegativeNumber (t : Text) : Bool :=
  match t with
  | '-' :: digits =>
    match Text.breakAt (· = '.') digits with
    | (whole, []) => !whole.isEmpty && whole.all Text.isDigit
    | (whole, _ :: places) => whole.all Text.isDigit && !places.isEmpty && places.all Text.isDigit
  | _ => false

/-- A text as a name and the value after its first equals sign. -/
def assignment (t : Text) : Text × Joined :=
  match Text.breakAt (· = '=') t with
  | (name, []) => (name, .nothing)
  | (name, _ :: value) => (name, .assigned value)

/-- The options that a word may mean that is no name of an option. -/
def candidates (t : Text) : List (Flag × Joined) :=
  match t with
  | '-' :: '-' :: _ =>
    let (start, joined) := assignment t
    (Flag.all.filter fun flag => start.isPrefixOf flag.longName).map (·, joined)
  | '-' :: c :: value => (Flag.ofLetter? c).toList.map (·, .attached value)
  | _ => []

def ofText (t : Text) : Except UsageFault Word :=
  match t with
  | '-' :: _ :: _ =>
    let (name, joined) := assignment t
    match Flag.ofName? t, Flag.ofName? name, candidates t with
    | some flag, _, _ => .ok (.option flag .nothing)
    | none, some flag, _ => .ok (.option flag joined)
    | none, none, [(flag, joined)] => .ok (.option flag joined)
    | none, none, [] =>
      if isNegativeNumber t || t.contains ' ' then .ok (.plain t) else .ok (.unknown t)
    | none, none, found => .error (.ambiguous t (found.map (·.1)))
  | _ => .ok (.plain t)

def ofTexts : List Text → Except UsageFault (List Word)
  | [] => .ok []
  | t :: rest =>
    if t = separatorText then .ok (.separator :: rest.map .plain)
    else do
      let word ← ofText t
      return word :: (← ofTexts rest)

end Word

end LintReport.CommandLine
