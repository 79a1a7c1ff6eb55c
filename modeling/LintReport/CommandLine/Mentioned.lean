import LintReport.CommandLine.Run

/-!
# Files that a run looks at

Which files a run looks at depends on what is in some of them: settings and the report are named by
the command line, generated files by the report, and maps by generated files. From what is known of
the disk, the files follow that come next.
-/

namespace LintReport.CommandLine

def Arguments.mentioned (a : Arguments) (workingDirectory : Text) : List Text :=
  (if a.config.isEmpty then Settings.fileNames.map (Path.join workingDirectory) else [a.config]) ++
    (if a.report = standardInputPath then [] else [a.report]) ++
    (if a.output.isEmpty then [] else [a.output])

def Invocation.generated (call : Invocation) (a : Arguments) : List Text :=
  match call.files a.report with
  | .ok files => files.map fun file => Path.absolute call.disk.workingDirectory file.path
  | .error _ => []

/-- The file of the map that the directive of a generated file names, if it names one. -/
def mapPath? (disk : Disk) (generated : Text) : Option Text := do
  let t ← (disk.read generated).toOption
  let value ← Directive.find? t
  if Directive.isInline value then none
  else (Url.toPath value).toOption.map (Resolver.besides disk generated)

/-- The files that a run looks at, as far as the disk is known. -/
def Invocation.mentioned (call : Invocation) : List Text :=
  match Request.ofTexts call.words with
  | .ok (.report a) =>
    let generated := call.generated a
    a.mentioned call.disk.workingDirectory ++ generated ++
      generated.filterMap (mapPath? call.disk)
  | _ => []

def Invocation.readsInput (call : Invocation) : Bool :=
  match Request.ofTexts call.words with
  | .ok (.report a) => a.report = standardInputPath
  | _ => false

/-- The number of times that files become known: those that the command line names, then those that
the report names, and then those that these name. -/
def rounds : Nat := 3

end LintReport.CommandLine
