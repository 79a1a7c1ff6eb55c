import LintReport.Text.Basic

/-!
# Paths

Paths are texts with slashes between their parts, and all operations are lexical: no disk is
consulted. A normalised path has no empty part, no part that is a single dot, and a part of two dots
only at the beginning of a relative path. Exactly two leading slashes are kept; one stands for any
other positive number of them.
-/

namespace LintReport.Path

def here : Text := ['.']

def up : Text := ['.', '.']

def isAbsolute (p : Text) : Bool :=
  match p with
  | '/' :: _ => true
  | _ => false

/-- The path of `p` taken against the directory `dir`. -/
def join (dir p : Text) : Text :=
  if isAbsolute p then p
  else if dir = [] ∨ dir.getLast? = some '/' then dir ++ p
  else dir ++ '/' :: p

/-- The number of leading slashes that a path keeps. -/
def rootSlashes : Text → Nat
  | ['/', '/'] => 2
  | '/' :: '/' :: '/' :: _ => 1
  | '/' :: '/' :: _ => 2
  | '/' :: _ => 1
  | _ => 0

/-- The parts that remain of `parts` after `kept`, which holds those before, last part first. In a
rooted path there is nothing above the root. -/
def resolveParts (rooted : Bool) (kept : List Text) : List Text → List Text
  | [] => kept.reverse
  | part :: rest =>
    if part = [] ∨ part = here then resolveParts rooted kept rest
    else if part = up then
      match kept with
      | [] => resolveParts rooted (if rooted then [] else [up]) rest
      | last :: above =>
        if last = up then resolveParts rooted (up :: kept) rest else resolveParts rooted above rest
    else resolveParts rooted (part :: kept) rest

def normalize (p : Text) : Text :=
  let slashes := rootSlashes p
  let parts := resolveParts (decide (0 < slashes)) [] (Text.split '/' p)
  let path := List.replicate slashes '/' ++ Text.join ['/'] parts
  if path = [] then here else path

/-- The normalised path of `p` taken against the working directory. -/
def absolute (workingDirectory p : Text) : Text :=
  normalize (if isAbsolute p then p else join workingDirectory p)

/-- The last part of a path; empty if the path ends in a slash. -/
def fileName (p : Text) : Text :=
  (p.reverse.takeWhile (· ≠ '/')).reverse

/-- What stands before the last part of a path, without the slashes between the two. -/
def parent (p : Text) : Text :=
  let head := (p.reverse.dropWhile (· ≠ '/')).reverse
  if head.all (· = '/') then head else Text.dropEndWhile (· = '/') head

/-- The ending of a file name from its last dot on. Leading dots begin no ending. -/
def extension (p : Text) : Text :=
  let name := (fileName p).dropWhile (· = '.')
  if name.contains '.' then '.' :: (name.reverse.takeWhile (· ≠ '.')).reverse else []

/-- The parts of a path that name something. -/
def names (p : Text) : List Text :=
  (Text.split '/' p).filter fun part => !part.isEmpty

/-- The two lists without their longest common beginning. -/
def dropCommon : List Text → List Text → List Text × List Text
  | a :: as, b :: bs => if a = b then dropCommon as bs else (a :: as, b :: bs)
  | as, bs => (as, bs)

/-- The path that leads from the directory `start` to `p`, both taken against the working directory.
An empty path leads nowhere. -/
def relative? (workingDirectory p start : Text) : Option Text :=
  if p = [] then none
  else
    let (below, rest) :=
      dropCommon (names (absolute workingDirectory start)) (names (absolute workingDirectory p))
    match List.replicate below.length up ++ rest with
    | [] => some here
    | parts => some (Text.join ['/'] parts)

end LintReport.Path
