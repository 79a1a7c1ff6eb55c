import LintReport.CommandLine.Word
import LintReport.Terminal.Painter

/-!
# Arguments

The words of a command line tell which report is read, where the settings are, what takes the place
of settings, and where the output goes. Of several options of one kind the last one counts.
-/

namespace LintReport.CommandLine

/-- What a command line asks for. An empty path stands for one that is not given. -/
structure Arguments where
  report : Text
  config : Text
  noSourceMaps : Bool
  color : Option ColorMode
  output : Text
  deriving DecidableEq

def standardInputPath : Text := ['-']

namespace Arguments

def start : Arguments := ⟨standardInputPath, [], false, none, []⟩

def set (a : Arguments) (value : Text) : Flag → Except UsageFault Arguments
  | .config => .ok { a with config := value }
  | .output => .ok { a with output := value }
  | .color =>
    match ColorMode.ofName? value with
    | some mode => .ok { a with color := some mode }
    | none => .error (.unknownChoice .color value ColorMode.quotedNames)
  | .noSourceMaps => .ok { a with noSourceMaps := true }
  | .help => .ok a

/-- The arguments as if the option had no value. -/
def clear (a : Arguments) : Flag → Arguments
  | .config => { a with config := [] }
  | .output => { a with output := [] }
  | .color => { a with color := none }
  | .noSourceMaps | .help => a

end Arguments

inductive Request where
  | help
  | report (a : Arguments)
  deriving DecidableEq

/-- Whether the report has been named. A separator right before or after its name has no meaning. -/
inductive ReportSlot where
  | empty
  /-- A separator has come where the report is named. -/
  | separated
  /-- The last word names the report. -/
  | justFilled
  | filled
  deriving DecidableEq

/-- What has been understood of a command line. The option in `awaiting` has yet to get its value,
and `extra` are the words without use. -/
structure Progress where
  arguments : Arguments
  slot : ReportSlot
  awaiting : Option Flag
  extra : List Text

namespace Progress

def start : Progress := ⟨Arguments.start, .empty, none, []⟩

def addExtra (p : Progress) (t : Text) : Progress :=
  { p with extra := p.extra ++ [t] }

def addPlain (p : Progress) (t : Text) : Progress :=
  let named := { p with arguments := { p.arguments with report := t } }
  match p.slot with
  | .empty => { named with slot := .justFilled }
  | .separated => { named with slot := .filled }
  | .justFilled | .filled => { p with slot := .filled }.addExtra t

def addSeparator (p : Progress) : Progress :=
  match p.slot with
  | .empty => { p with slot := .separated }
  | .justFilled => { p with slot := .filled }
  | .separated | .filled => p.addExtra Word.separatorText

def leaveReport (p : Progress) : Progress :=
  if p.slot = .justFilled then { p with slot := .filled } else p

def give (p : Progress) (flag : Flag) (value : Text) : Except UsageFault Progress :=
  (p.arguments.set value flag).map fun a => { p with arguments := a, awaiting := none }

/-- The progress after an option other than that for help. A separator that is joined to an option
takes back its value. -/
def addFlag (p : Progress) (flag : Flag) (joined : Joined) : Except UsageFault Progress :=
  let p := p.leaveReport
  match flag.takesValue, joined with
  | true, .nothing => .ok { p with awaiting := some flag }
  | true, .assigned value | true, .attached value =>
    if value = Word.separatorText then .ok { p with arguments := p.arguments.clear flag }
    else p.give flag value
  | false, .nothing => p.give flag []
  | false, .assigned value | false, .attached value => .error (.valueRefused flag value)

end Progress

/-- Whether the letters that are joined to the option for help are other options. What follows the
letter of an option with a value is the value; if nothing follows, the next word is. -/
def checkLetters (next : Option Word) : Text → Except UsageFault Unit
  | [] => .ok ()
  | c :: rest =>
    match Flag.ofLetter? c, rest, next with
    | none, _, _ => .error (.valueRefused .help (c :: rest))
    | some .help, _, _ => checkLetters next rest
    | some _, [], some (.plain _) => .ok ()
    | some flag, [], _ => .error (.valueMissing flag)
    | some _, _ :: _, _ => .ok ()

/-- What the option for help asks for. It takes no value, but letters that are joined to it are
options of their own. -/
def helpRequest (joined : Joined) (next : Option Word) : Except UsageFault Request :=
  match joined with
  | .nothing => .ok .help
  | .assigned [] => .error (.valueRefused .help [])
  | .attached letters | .assigned letters => (checkLetters next letters).map fun _ => .help

def request (p : Progress) : List Word → Except UsageFault Request
  | [] =>
    match p.awaiting with
    | some flag => .error (.valueMissing flag)
    | none =>
      if p.extra.isEmpty then .ok (.report p.arguments) else .error (.unrecognized p.extra)
  | word :: rest =>
    match p.awaiting, word with
    | some flag, .plain value => do request (← p.give flag value) rest
    | some flag, _ => .error (.valueMissing flag)
    | none, .option .help joined => helpRequest joined rest.head?
    | none, .option flag joined => do request (← p.addFlag flag joined) rest
    | none, .unknown t => request (p.leaveReport.addExtra t) rest
    | none, .separator => request p.addSeparator rest
    | none, .plain t => request (p.addPlain t) rest

def Request.ofTexts (texts : List Text) : Except UsageFault Request := do
  request Progress.start (← Word.ofTexts texts)

def helpLines : List Text := [
  "usage: stylish-mapped [-h] [-c CONFIG] [--no-source-maps]",
  "                      [--color \x7bauto,always,never\x7d] [-o OUTPUT]",
  "                      [report]",
  "",
  "Format ESLint JSON results as a stylish report, remapped through source maps.",
  "",
  "positional arguments:",
  "  report                ESLint JSON report to read (default: stdin)",
  "",
  "options:",
  "  -h, --help            show this help message and exit",
  "  -c CONFIG, --config CONFIG",
  "                        Path to config file (TOML/YAML/INI). If omitted, will",
  "                        search in cwd for stylish-mapped.toml, etc.",
  "  --no-source-maps      Report positions as given, without consulting source",
  "                        maps",
  "  --color \x7bauto,always,never\x7d",
  "                        Colorize output (default: from config, else auto)",
  "  -o OUTPUT, --output OUTPUT",
  "                        Write the report to a file instead of stdout"]

def helpText : Text :=
  helpLines.flatMap (· ++ ['\n'])

end LintReport.CommandLine
