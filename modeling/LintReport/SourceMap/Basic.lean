import LintReport.Json.Reader
import LintReport.Path
import LintReport.SourceMap.Mappings
import LintReport.Text.Lowercase
import LintReport.Value.Shown

/-!
# Source maps

A source map of revision 3 is an object with a mappings text and lists of sources and names. Only
the version and the mappings are checked; the other fields are taken as they are, and a field of the
wrong kind is noticed where something is asked of it that its kind has not.
-/

namespace LintReport

/-- A source map that has been accepted. The sources have the source root before them, and a source
may be null. The mappings of a generated line stand in the order of their columns. -/
structure SourceMap where
  file : Value
  sourceRoot : Value
  names : List Value
  sources : List Value
  lines : Array (Array Mapping)

namespace SourceMap

inductive Flaw where
  | notJson
  | notAnObject
  | indexed
  /-- The version, as a message shows it. -/
  | version (found : Text)
  | noMappings
  | mappings (fault : Mappings.Fault)
  deriving DecidableEq

def Flaw.message : Flaw → Text
  | notJson => "Source map is not valid JSON"
  | notAnObject => "Source map must be a JSON object"
  | indexed => "Indexed source maps are not supported"
  | version found => "Unsupported source map version: " ++ found
  | noMappings => "Source map is missing its 'mappings' string"
  | mappings fault => fault.message

/-- Why no source map results: it has a flaw, a field that the flaws do not cover is of the wrong
kind, a number cannot be shown in the message of a flaw, or its text is nested too deep. -/
inductive Fault where
  | flaw (f : Flaw)
  | wrongKind
  | numberTooLong
  | tooDeep
  deriving DecidableEq

def supportedVersion : Int := 3

/-- What some servers put before a JSON text so that no script can be made of it. It takes up the
first line. -/
def guardPrefix : Text := ")]\x7d'"

/-- The text without the guard and the rest of its line. -/
def dropGuard (t : Text) : Text :=
  if guardPrefix.isPrefixOf t then (t.dropWhile (· ≠ '\n')).drop 1 else t

/-- Whether a source names its own protocol. The test is made on texts, and among the elements of a
list or the keys of a mapping. -/
def namesProtocol? : Value → Option Bool
  | .str s => some (Text.hasInfix "://" s)
  | .list xs => some (xs.any (·.isText "://"))
  | .map entries => some (entries.any (·.1.isText "://"))
  | _ => none

/-- A source with the source root before it, unless the source is null or stands for itself. -/
def underRoot (root source : Value) : Except Fault Value :=
  match source with
  | .null => .ok .null
  | source =>
    if root.truthy then
      match namesProtocol? source with
      | none => .error .wrongKind
      | some true => .ok source
      | some false =>
        match source, root with
        | .str s, .str r =>
          .ok (.str (Path.join r s))
        | .str s, _ => if Path.isAbsolute s then .ok source else .error .wrongKind
        | _, _ => .error .wrongKind
    else .ok source

def allUnderRoot (root : Value) : List Value → Except Fault (List Value)
  | [] => .ok []
  | s :: rest =>
    match underRoot root s with
    | .error fault => .error fault
    | .ok s => (allUnderRoot root rest).map (s :: ·)

/-- The elements of a field. A field that does not count as true has none. -/
def fieldElements (field : Value) : Except Fault (List Value) :=
  match (field.orElse (.list [])).elements? with
  | some xs => .ok xs
  | none => .error .wrongKind

def ofFields (entries : List (Value × Value)) (mappings : Text) : Except Fault SourceMap := do
  let root := (Value.namedD entries "sourceRoot").orElse (.str [])
  let names ← fieldElements (Value.namedD entries "names")
  let sources ← fieldElements (Value.namedD entries "sources")
  let sources ← allUnderRoot root sources
  match Mappings.parse mappings with
  | .error fault => .error (.flaw (.mappings fault))
  | .ok lines =>
    return {
      file := Value.namedD entries "file"
      sourceRoot := root
      names
      sources
      lines := (lines.map List.toArray).toArray }

def ofValue : Value → Except Fault SourceMap
  | .map entries =>
    if (Value.named? "sections" entries).isSome then .error (.flaw .indexed)
    else
      let version := Value.namedD entries "version"
      if version.isInt supportedVersion then
        match Value.namedD entries "mappings" with
        | .str mappings => ofFields entries mappings
        | _ => .error (.flaw .noMappings)
      else
        match version.shown? with
        | some found => .error (.flaw (.version found))
        | none => .error .numberTooLong
  | _ => .error (.flaw .notAnObject)

def ofText (t : Text) (depth : Nat := Json.usualDepth) : Except Fault SourceMap :=
  match Json.read (dropGuard t) depth with
  | .ok v => ofValue v
  | .error .tooDeep => .error .tooDeep
  | .error _ => .error (.flaw .notJson)

end SourceMap

end LintReport
