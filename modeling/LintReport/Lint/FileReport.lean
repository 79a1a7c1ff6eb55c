import LintReport.Lint.Diagnostic

/-!
# Reports of a linter

A linter reports a list of files, each with its diagnostics.
-/

namespace LintReport

structure FileReport where
  path : Text
  diagnostics : List Diagnostic

namespace FileReport

/-- The path that a file is reported under, by either of two keys. The first key counts if it is
there, also with null. -/
def pathOf (entries : List (Value × Value)) : Value :=
  (Value.named? "filePath" entries).getD (Value.namedD entries "file_path")

def ofFields (entries : List (Value × Value)) (path : Value) : Except Lint.Fault FileReport :=
  match ((Value.namedD entries "messages").orElse (.list [])).elements? with
  | none => .error .messagesNotAList
  | some messages =>
    match Diagnostic.ofValues messages with
    | .error fault => .error fault
    | .ok diagnostics =>
      match path.text? with
      | none => .error .numberTooLong
      | some path => .ok ⟨path, diagnostics⟩

def ofValue : Value → Except Lint.Fault FileReport
  | .map entries =>
    match pathOf entries with
    | .null => .error .noFilePath
    | path => ofFields entries path
  | _ => .error .fileNotAnObject

def ofValues : List Value → Except Lint.Fault (List FileReport)
  | [] => .ok []
  | v :: rest =>
    match ofValue v with
    | .error fault => .error fault
    | .ok r => (ofValues rest).map (r :: ·)

def ofReport (v : Value) : Except Lint.Fault (List FileReport) :=
  match v.elements? with
  | none => .error .reportNotAList
  | some files => ofValues files

def located (files : List FileReport) : List (Text × Diagnostic) :=
  files.flatMap fun file => file.diagnostics.map fun d => (file.path, d)

end FileReport

end LintReport
