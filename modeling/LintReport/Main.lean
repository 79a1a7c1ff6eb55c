import LintReport.CommandLine.Mentioned
import LintReport.Log

/-!
# The program

Loads the files that a run looks at, makes the run, and carries out what it leaves behind.
-/

namespace LintReport.Program

open CommandLine (Invocation)

/-- The disk with what is under a path. -/
def fetch (disk : Disk) (path : Text) : IO Disk := do
  try
    let content ← IO.FS.readBinFile (String.ofList (disk.locate path))
    return disk.put path (.bytes content.toList)
  catch
    | .permissionDenied .. => return disk.put path .denied
    | .inappropriateType .. => return disk.makeDirectory path
    | _ => return disk

/-- The call with the files known that it looks at. -/
def fetchAll (call : Invocation) : (rounds : Nat) → IO Invocation
  | 0 => return call
  | rounds + 1 => do
    let disk ← call.mentioned.foldlM fetch call.disk
    fetchAll { call with disk } rounds

def readInput : IO CommandLine.StandardInput := do
  let content ← (← IO.getStdin).readBinToEnd
  match Utf8.decode? content.toList with
  | some t => return .text (Disk.unixLineBreaks t)
  | none => return .notText

def environment : IO Environment := do
  let mut found : Environment := []
  for name in Environment.colorSwitches ++ [Log.levelVariable] do
    if let some value ← IO.getEnv (String.ofList name) then
      found := (name, value.toList) :: found
  return found

def invocation (words : List Text) : IO Invocation := do
  let workingDirectory := (← IO.currentDir).toString.toList
  let output : Output := if ← (← IO.getStdout).isTty then .terminal else .other
  let call : Invocation :=
    ⟨words, .text [], Disk.empty workingDirectory, ← environment, output⟩
  let standardInput ← if call.readsInput then readInput else pure call.standardInput
  fetchAll { call with standardInput } CommandLine.rounds

def deliver (outcome : CommandLine.Outcome) : IO Unit := do
  if let some (path, t) := outcome.written then
    IO.FS.createDirAll (String.ofList (Path.parent path))
    IO.FS.writeFile (String.ofList path) (String.ofList t)
  IO.print (String.ofList outcome.printed)

end LintReport.Program

open LintReport in
def main (arguments : List String) : IO UInt32 := do
  let call ← Program.invocation (arguments.map String.toList)
  match CommandLine.run call with
  | .ok outcome =>
    Program.deliver outcome
    return UInt32.ofNat outcome.code
  | .error fault =>
    IO.eprint (String.ofList fault.notice)
    return UInt32.ofNat (fault.code?.getD 1)
