import LintReport.Disk
import LintReport.Ini.Reader
import LintReport.Settings.Basic
import LintReport.Toml.Reader
import LintReport.Yaml.Reader

/-!
# Loading settings

Settings are kept in a file that the user names, or else in the first file of a fixed list that the
working directory has. The name of the file decides on its format. A file that has settings among
other things has them in a section of its own.
-/

namespace LintReport.Settings

inductive LoadFault where
  | notFound (path : Text)
  /-- The settings are no mapping. -/
  | notAMapping (path : Text)
  /-- The table of tools is no table. -/
  | toolsNotAMapping
  | settings (fault : Fault)
  | disk (fault : Disk.Fault)
  | toml (fault : Toml.Fault)
  | yaml (fault : Yaml.Fault)
  | ini (fault : Ini.Fault)
  deriving DecidableEq

/-! ## Files -/

/-- The files that settings are looked for in, first come first. -/
def fileNames : List Text := [
  ".stylish-mapped.toml", "stylish-mapped.toml", ".stylish-mapped.yaml", ".stylish-mapped.yml",
  "stylish-mapped.yaml", "stylish-mapped.yml", "pyproject.toml", "setup.cfg"]

def sectionName : Text := "stylish_mapped"

inductive Format where
  /-- As a table of tools among other tables. -/
  | project
  /-- As a table of tools, or else as the whole file. -/
  | toml
  | yaml
  | ini
  /-- Not at all. -/
  | none
  deriving DecidableEq

def Format.ofPath (path : Text) : Format :=
  let extension := (Path.extension path).lower
  if extension = ".toml" then if Path.fileName path = "pyproject.toml" then project else toml
  else if extension = ".yaml" ∨ extension = ".yml" then yaml
  else if Path.fileName path = "setup.cfg" then ini
  else none

/-- The file that settings are in, if there is one. -/
def file? (disk : Disk) (path : Text) : Except LoadFault (Option Text) :=
  if path.isEmpty then
    .ok ((fileNames.map (Path.join disk.workingDirectory)).find? disk.isFile)
  else if disk.isFile path then .ok (some path)
  else .error (.notFound path)

/-! ## Contents -/

/-- The value that a text of some format writes. Of an INI file only the options of the section of
settings are read. -/
def Format.read (room : Room) (t : Text) : Format → Except LoadFault Value
  | project | toml => (Toml.read room.toml t).mapError .toml |>.map .map
  | yaml => (Yaml.read room.yaml t).mapError .yaml
  | ini =>
    (Ini.read ["tool:" ++ sectionName, sectionName] t).mapError .ini |>.map fun options =>
      .map (options.map fun option => (.str option.1, .str option.2))
  | none => .ok (.map [])

/-- The table of settings among those of tools, or `other` if there is none. -/
def toolTable (document other : Value) : Except LoadFault Value :=
  match document with
  | .map entries =>
    match Value.named? "tool" entries with
    | Option.none => .ok other
    | some (.map tools) => .ok ((Value.named? sectionName tools).getD other)
    | some _ => .error .toolsNotAMapping
  | _ => .error .toolsNotAMapping

/-- The part of a document that holds settings. -/
def Format.select (document : Value) : Format → Except LoadFault Value
  | project => toolTable document (.map [])
  | toml => toolTable document document
  | yaml => .ok (document.orElse (.map []))
  | ini | none => .ok document

def ofDocument (path : Text) (document : Value) : Except LoadFault Settings := do
  match ← (Format.ofPath path).select document with
  | .map entries => (ofEntries entries).mapError .settings
  | _ => throw (.notAMapping path)

/-- The document in the file at a path. A file that is not opened for want of rights is an error,
except where a section of an INI file is looked for. -/
def document (disk : Disk) (path : Text) : Except LoadFault Value :=
  match Format.ofPath path, disk.read path with
  | .none, _ => .ok (.map [])
  | .ini, .error .notText => .error (.disk .notText)
  | .ini, .error _ => .ok (.map [])
  | _, .error fault => .error (.disk fault)
  | format, .ok t => format.read disk.room t

structure Loaded where
  result : Except LoadFault Settings
  opened : List Text

/-- The settings of the file at a path, or of the file that is found if the path is empty. Without
a file the settings are the default. -/
def load (disk : Disk) (path : Text) : Loaded :=
  match file? disk path with
  | .error fault => ⟨.error fault, []⟩
  | .ok none => ⟨.ok default, []⟩
  | .ok (some path) =>
    ⟨(document disk path).bind (ofDocument path),
      if Format.ofPath path = .none then [] else disk.opened path⟩

/-! ## Messages -/

/-- Whether the user is told about the fault in words of its own. -/
def LoadFault.isTold : LoadFault → Bool
  | notFound _ | notAMapping _ | settings (.unknownColor _) => true
  | _ => false

/-- The message of a fault. Of a text that is to be a truth value it is just the text. -/
def LoadFault.message? : LoadFault → Option Text
  | notFound path => some ("Config file not found: " ++ path)
  | notAMapping path => some ("Configuration in " ++ path ++ " must be a table/mapping")
  | settings (.unknownColor found) =>
    some ("Invalid color mode " ++ found.quoted ++ ColorMode.expectation)
  | yaml (.notTruth found) => some found.quoted
  | _ => none

end LintReport.Settings
