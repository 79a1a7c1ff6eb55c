import LintReport.Disk
import LintReport.Resolver.Cache
import LintReport.Resolver.Note
import LintReport.SourceMap.Directive
import LintReport.Url.File

/-!
# Loading the map of a generated file

A generated file is read once, its last directive is followed to a map, and the map is parsed. All
that can go wrong on the way leads to an entry without a map, with few exceptions. A generated file
that does not exist leads to no entry, since it may still be written. A file URL with a bad host, a
map with names or sources of the wrong kind, and a map that is nested too deep are faults.
-/

namespace LintReport.Resolver

inductive Fault where
  /-- A value of a map, or a line or column that was asked for, is of the wrong kind. -/
  | wrongKind
  /-- A source of a map in a file of its own is no text. -/
  | sourceNotText
  | badUrl
  | numberTooLong
  /-- The text of a map is nested too deep. -/
  | tooDeep
  deriving DecidableEq

structure Loading where
  outcome : Except Fault (Option Entry)
  opened : List Text
  notes : List Note

/-- The map in a text, or none if it has a flaw, with a remark on which of the two it is. -/
def parseMap (depth : Nat) (t : Text) : Except Fault (Option SourceMap × Note) :=
  match SourceMap.ofText t depth with
  | .ok sourceMap => .ok (some sourceMap, .mapLoaded)
  | .error (.flaw _) => .ok (none, .mapMalformed)
  | .error .wrongKind => .error .wrongKind
  | .error .numberTooLong => .error .numberTooLong
  | .error .tooDeep => .error .tooDeep

/-- What came of loading where the text of the map is known. -/
def finish (depth : Nat) (opened : List Text) (entry : Option SourceMap → Entry) (t : Text) :
    Loading :=
  match parseMap depth t with
  | .ok (sourceMap, note) => ⟨.ok (some (entry sourceMap)), opened, [note]⟩
  | .error fault => ⟨.error fault, opened, []⟩

/-- The path of a file that is named relative to the directory of another. -/
def besides (disk : Disk) (path name : Text) : Text :=
  Path.absolute disk.workingDirectory (Path.join (Path.parent path) name)

def loadExternal (disk : Disk) (opened : List Text) (generated name : Text) : Loading :=
  let path := besides disk generated name
  if disk.isFile path then
    match disk.read path with
    | .ok t => finish disk.room.sourceMap (opened ++ disk.opened path) (Entry.external path) t
    | .error _ =>
      ⟨.ok (some (.external path none)), opened ++ disk.opened path, [.mapUnreadable]⟩
  else
    ⟨.ok (some (.external path none)), opened, [.mapMissing]⟩

def follow (disk : Disk) (opened : List Text) (generated value : Text) : Loading :=
  if Directive.isInline value then
    match Directive.inlineText value with
    | .ok t => finish disk.room.sourceMap opened (Entry.inline value) t
    | .error _ => ⟨.ok (some (.inline value none)), opened, [.inlineUnreadable]⟩
  else
    match Url.toPath value with
    | .ok name => loadExternal disk opened generated name
    | .error .badHost => ⟨.error .badUrl, opened, []⟩

def load (disk : Disk) (generated : Text) : Loading :=
  if disk.isFile generated then
    let opened := disk.opened generated
    match disk.read generated with
    | .error _ => ⟨.ok (some .undirected), opened, [.generatedUnreadable]⟩
    | .ok t =>
      match Directive.find? t with
      | none => ⟨.ok (some .undirected), opened, [.noDirective]⟩
      | some value => follow disk opened generated value
  else
    ⟨.ok none, [], [.generatedMissing]⟩

end LintReport.Resolver
