import LintReport.SourceMap.Basic

/-!
# What is known of generated files

For each generated file that has been looked at, the cache keeps what its directive led to, also if
that was nothing. An entry stays as it is for the life of the cache.
-/

namespace LintReport

/-- What the directive of a generated file led to. -/
inductive Entry where
  /-- The file could not be read, or it has no directive. -/
  | undirected
  /-- A map inside the file itself, at a data URL. -/
  | inline (url : Text) (sourceMap : Option SourceMap)
  /-- A map in a file of its own, at an absolute path. -/
  | external (path : Text) (sourceMap : Option SourceMap)

namespace Entry

def url? : Entry → Option Text
  | undirected => none
  | inline url _ => some url
  | external path _ => some path

def isInline : Entry → Bool
  | inline _ _ => true
  | _ => false

/-- The map, if it was accepted. -/
def sourceMap? : Entry → Option SourceMap
  | undirected => none
  | inline _ sourceMap => sourceMap
  | external _ sourceMap => sourceMap

end Entry

/-- The entries of generated files, by the path under which they were asked for, first come first.
-/
structure Cache where
  entries : List (Text × Entry)

namespace Cache

def empty : Cache := ⟨[]⟩

def get? (cache : Cache) (path : Text) : Option Entry :=
  cache.entries.lookup path

def contains (cache : Cache) (path : Text) : Bool :=
  (cache.get? path).isSome

def size (cache : Cache) : Nat :=
  cache.entries.length

/-- The cache with an entry for a path that has none. -/
def insertNew (cache : Cache) (path : Text) (entry : Entry) : Cache :=
  ⟨cache.entries ++ [(path, entry)]⟩

end Cache

end LintReport
