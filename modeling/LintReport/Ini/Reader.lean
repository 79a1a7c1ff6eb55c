import LintReport.Text.Blank
import LintReport.Text.Lowercase
import LintReport.Value.Basic

/-!
# INI files

An INI file has sections of options. A section starts with its name in brackets and an option is a
name and a value with an equals sign or a colon between them. A line that is indented further than
the option that it follows continues the value of that option. Lines that start with a hash or a
semicolon are comments. Names of options do not depend on case. The options of the section `DEFAULT`
are options of all sections.

A value may refer to another option of its section by `%(name)s`, and `%%` is a percent sign.
-/

namespace LintReport.Ini

inductive Fault where
  | sectionMissing
  | sectionRepeated
  | optionRepeated
  /-- Some line is neither a header nor an option. -/
  | lineUnreadable
  | referenceUnreadable
  | referenceUnknown
  | referenceTooDeep
  deriving DecidableEq

/-- The options of a section, first come first, each with the lines of its value in reverse. -/
abbrev Options := List (Text × List Text)

def defaultSection : Text := "DEFAULT"

/-! ## Lines -/

/-- What a line says, blanks at its ends apart. -/
inductive Line where
  | comment
  | blank
  | header (name : Text)
  | option (name value : Text)
  | other
  deriving DecidableEq

/-- The name between the first bracket and the last one. -/
def headerName? (t : Text) : Option Text :=
  match t with
  | '[' :: rest =>
    match (rest.reverse.dropWhile (· ≠ ']')).drop 1 with
    | [] => none
    | reversed => some reversed.reverse
  | _ => none

def option? (t : Text) : Option (Text × Text) :=
  match Text.breakAt (fun c => c = '=' || c = ':') t with
  | (_, []) => none
  | (name, _ :: value) => some ((Text.trimEnd name).lower, Text.trim value)

def Line.of (t : Text) : Line :=
  match t with
  | [] => blank
  | c :: _ =>
    if c = '#' || c = ';' then comment
    else match headerName? t, option? t with
      | some name, _ => header name
      | none, some (name, value) => option name value
      | none, none => other

/-! ## Sections -/

/-- What has been read of a file. The section and the option that are being read are known by their
names; `indent` is the indentation of the last line that continued no other. -/
structure Reading where
  sections : List (Text × Options)
  current : Option Text
  option : Option Text
  indent : Nat
  flawed : Bool

namespace Reading

def start : Reading := ⟨[(defaultSection, [])], none, none, 0, false⟩

def options? (r : Reading) (name : Text) : Option Options :=
  r.sections.lookup name

def changeOptions (name : Text) (change : Options → Options) :
    List (Text × Options) → List (Text × Options) :=
  List.map fun entry => if entry.1 = name then (entry.1, change entry.2) else entry

/-- A further line for the option that is being read, if there is one. -/
def continue_ (r : Reading) (line : Text) : Reading :=
  match r.current, r.option with
  | some name, some option =>
    { r with
      sections := changeOptions name
        (List.map fun entry => if entry.1 = option then (entry.1, line :: entry.2) else entry)
        r.sections }
  | _, _ => r

def continues (r : Reading) (indent : Nat) : Bool :=
  r.current.isSome && r.option.isSome && decide (r.indent < indent)

/-- A section begins. Only the section of defaults may begin more than once. -/
def enter (r : Reading) (name : Text) : Except Fault Reading :=
  match r.options? name with
  | none =>
    .ok { r with sections := r.sections ++ [(name, [])], current := some name, option := none }
  | some _ =>
    if name = defaultSection then .ok { r with current := some name, option := none }
    else .error .sectionRepeated

/-- An option begins. One without a name is a flaw, and no line continues it. -/
def begin_ (r : Reading) (name value : Text) : Except Fault Reading :=
  match r.current with
  | none => .error .sectionMissing
  | some current =>
    if ((r.options? current).getD []).any fun entry => entry.1 = name then .error .optionRepeated
    else
      .ok { r with
        sections := changeOptions current (fun options => options ++ [(name, [value])]) r.sections
        option := if name.isEmpty then none else some name
        flawed := r.flawed || name.isEmpty }

def addLine (r : Reading) (line : Text) : Except Fault Reading :=
  let trimmed := Text.trim line
  let indent := (line.takeWhile Text.isBlank).length
  match Line.of trimmed with
  | .comment => .ok r
  | .blank => .ok (r.continue_ [])
  | said =>
    if r.continues indent then .ok (r.continue_ trimmed)
    else
      let r := { r with indent }
      match said with
      | .header name => r.enter name
      | .option name value => r.begin_ name value
      | _ => if r.current.isSome then .ok { r with flawed := true } else .error .sectionMissing

def addLines (r : Reading) : List Text → Except Fault Reading
  | [] => .ok r
  | line :: rest => do (← r.addLine line).addLines rest

end Reading

def sections (t : Text) : Except Fault (List (Text × List (Text × Text))) := do
  let r ← Reading.start.addLines (Text.lines t)
  if r.flawed then throw .lineUnreadable
  return r.sections.map fun entry => (entry.1, entry.2.map fun option =>
    (option.1, Text.trimEnd (Text.join ['\n'] option.2.reverse)))

/-! ## References -/

inductive Piece where
  | char (c : Char)
  | reference (name : Text)
  | unreadable
  deriving DecidableEq

/-- The name of a reference whose opening parenthesis has been read, and the text after it. -/
def referenceName? (t : Text) : Option (Text × Text) :=
  match Text.breakAt (· = ')') t with
  | (c :: name, ')' :: 's' :: rest) => some (c :: name, rest)
  | _ => none

theorem length_of_referenceName? {t name rest : Text} (h : referenceName? t = some (name, rest)) :
    rest.length < t.length := by
  unfold referenceName? at h
  split at h
  · next c initial after hbreak =>
    simp only [Option.some.injEq, Prod.mk.injEq] at h
    obtain ⟨-, rfl⟩ := h
    have hafter : t.dropWhile (fun c => !decide (c = ')')) = ')' :: 's' :: after :=
      congrArg Prod.snd hbreak
    have hlength := (List.dropWhile_sublist (fun c => !decide (c = ')')) (l := t)).length_le
    rw [hafter] at hlength
    simp only [List.length_cons] at hlength
    omega
  · simp at h

/-- The pieces of a value. Nothing is read after an unreadable one. -/
def pieces : Text → List Piece
  | [] => []
  | '%' :: '%' :: rest => .char '%' :: pieces rest
  | '%' :: '(' :: rest =>
    match h : referenceName? rest with
    | some (name, after) =>
      have := length_of_referenceName? h
      .reference name.lower :: pieces after
    | none => [.unreadable]
  | c :: rest => if c = '%' then [.unreadable] else .char c :: pieces rest
termination_by t => t.length

/-- The greatest number of references that may lead to one another. -/
def maxDepth : Nat := 10

/-- The text of the pieces of a value, in which references are followed at most `depth` deep. -/
def expand (options : List (Text × Text)) : (depth : Nat) → List Piece → Except Fault Text
  | 0, _ => .error .referenceTooDeep
  | _ + 1, [] => .ok []
  | depth + 1, .char c :: rest => (expand options (depth + 1) rest).map (c :: ·)
  | _ + 1, .unreadable :: _ => .error .referenceUnreadable
  | depth + 1, .reference name :: rest =>
    match options.lookup name with
    | none => .error .referenceUnknown
    | some value => do
      let text ← if value.contains '%' then expand options depth (pieces value) else .ok value
      return text ++ (← expand options (depth + 1) rest)

/-- The options with all references replaced by what they refer to. -/
def resolve (options : List (Text × Text)) : List (Text × Text) → Except Fault (List (Text × Text))
  | [] => .ok []
  | (name, value) :: rest => do
    let text ← expand options maxDepth (pieces value)
    return (name, text) :: (← resolve options rest)

/-! ## Reading a section -/

/-- The options of a file with the value of one of them replaced, or with that option added. -/
def putOption (option : Text × Text) : List (Text × Text) → List (Text × Text)
  | [] => [option]
  | entry :: rest => if entry.1 = option.1 then option :: rest else entry :: putOption option rest

/-- The options of the first of the named sections that is there, with those that hold for all
sections. A file without these sections has no options. -/
def read (names : List Text) (t : Text) : Except Fault (List (Text × Text)) := do
  let found ← sections t
  match names.findSome? fun name => found.lookup name with
  | none => return []
  | some own =>
    let options := own.foldl (fun options option => putOption option options)
      ((found.lookup defaultSection).getD [])
    resolve options options

end LintReport.Ini
