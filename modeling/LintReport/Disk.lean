import LintReport.Path
import LintReport.Room
import LintReport.Text.Utf8

/-!
# Disks

A disk holds files under absolute normalised paths and has a working directory, against which
relative paths are taken. A directory exists if a file lies below it, if it was made, or if it is
the working directory or above that.

Paths are told apart by their names alone. Two dots take back the name before them, and a path may
lead through what is a file or is not there; on a disk with links, and wherever a name on the way is
no directory, such a path would lead elsewhere or nowhere.
-/

namespace LintReport

/-- What a file holds: bytes, or something that may not be read. -/
inductive Disk.Content where
  | bytes (content : List UInt8)
  | denied

/-- A disk at one moment, and the room that there is for reading from it. -/
structure Disk where
  workingDirectory : Text
  files : List (Text × Disk.Content)
  madeDirectories : List Text
  room : Room := {}

namespace Disk

inductive Fault where
  | missing
  | isDirectory
  | denied
  | notText
  deriving DecidableEq

inductive WriteFault where
  | opening (fault : Fault)
  /-- A file stands where a directory would have to be. -/
  | notADirectory
  deriving DecidableEq

/-- What a fault of writing is for someone who reads: a file in the way of a directory leaves
nothing to be read there. -/
def WriteFault.ofReading : WriteFault → Fault
  | opening fault => fault
  | notADirectory => .missing

instance : Coe WriteFault Fault := ⟨WriteFault.ofReading⟩

def empty (workingDirectory : Text) : Disk where
  workingDirectory
  files := []
  madeDirectories := []

/-- The path under which the disk holds what a path names. -/
def locate (disk : Disk) (p : Text) : Text :=
  match Path.normalize (Path.join disk.workingDirectory p) with
  | '/' :: '/' :: rest => '/' :: rest
  | located => located

/-- The content of the file that a path names. A path that ends in a slash names no file. -/
def file? (disk : Disk) (p : Text) : Option Content :=
  if p.getLast? = some '/' then none
  else disk.files.lookup (disk.locate p)

def isFile (disk : Disk) (p : Text) : Bool :=
  (disk.file? p).isSome

/-- Whether `below` is the located path `directory` or lies below it. -/
def isWithin (directory below : Text) : Bool :=
  directory = below || directory = ['/'] || (directory ++ ['/']).isPrefixOf below

def isDirectory (disk : Disk) (p : Text) : Bool :=
  let located := disk.locate p
  disk.files.any (fun entry => entry.1 ≠ located && isWithin located entry.1) ||
    disk.madeDirectories.any (isWithin located) ||
    isWithin located (disk.locate disk.workingDirectory)

/-- A text with every line break written as one line feed. -/
def unixLineBreaks : Text → Text
  | '\r' :: '\n' :: rest => '\n' :: unixLineBreaks rest
  | '\r' :: rest => '\n' :: unixLineBreaks rest
  | c :: rest => c :: unixLineBreaks rest
  | [] => []

def Content.text : Content → Except Fault Text
  | denied => .error .denied
  | bytes content =>
    match Utf8.decode? content with
    | some t => .ok (unixLineBreaks t)
    | none => .error .notText

/-- The text of the file that a path names. The empty path names nothing. -/
def read (disk : Disk) (p : Text) : Except Fault Text :=
  match disk.file? p with
  | some content => content.text
  | none => .error (if !p.isEmpty && disk.isDirectory p then .isDirectory else .missing)

/-- The located paths of the files that reading a path opens, whether or not they can be read. -/
def opened (disk : Disk) (p : Text) : List Text :=
  if disk.isFile p then [disk.locate p] else []

def putContent (path : Text) (content : Content) : List (Text × Content) → List (Text × Content)
  | [] => [(path, content)]
  | (p, c) :: rest =>
    if p = path then (path, content) :: rest else (p, c) :: putContent path content rest

def put (disk : Disk) (p : Text) (content : Content) : Disk :=
  { disk with files := putContent (disk.locate p) content disk.files }

def delete (disk : Disk) (p : Text) : Disk :=
  { disk with files := disk.files.filter fun entry => entry.1 ≠ disk.locate p }

def makeDirectory (disk : Disk) (p : Text) : Disk :=
  { disk with madeDirectories := disk.locate p :: disk.madeDirectories }

def isBlocked (disk : Disk) (directory : Text) : Bool :=
  disk.files.any fun entry => isWithin entry.1 (disk.locate directory)

/-- The disk with a directory and those above it. The empty path needs none, and nothing is made
where a file has the name already. -/
def ensureDirectory (disk : Disk) (directory : Text) : Except WriteFault Disk :=
  if directory.isEmpty || disk.isDirectory directory || disk.isFile directory then .ok disk
  else if disk.isBlocked directory then .error .notADirectory
  else .ok (disk.makeDirectory directory)

def fill (disk : Disk) (p text : Text) : Except WriteFault Disk :=
  if p.getLast? = some '/' || disk.isDirectory p then .error (.opening .isDirectory)
  else if disk.isBlocked (Path.parent p) then .error .notADirectory
  else
    match disk.file? p with
    | some .denied => .error (.opening .denied)
    | _ => .ok (disk.put p (.bytes (Utf8.encode text)))

def write (disk : Disk) (p text : Text) : Except WriteFault Disk := do
  (← disk.ensureDirectory (Path.parent p)).fill p text

end Disk

end LintReport
