import LintReport.Resolver.Load
import LintReport.SourceMap.Query

/-!
# Resolving positions

A position in a generated file is taken back to the source that its map names. Where there
is no map, or the map has nothing for the position, the answer is the position itself.
-/

namespace LintReport

/-- A position in a file. Lines and columns are taken as they are reported, and may be null. -/
structure Position where
  source : Text
  line : Value
  column : Value

inductive Outcome where
  | found
  | noMap
  | noMatch
  deriving DecidableEq

def Outcome.name : Outcome → Text
  | found => "found-original"
  | noMap => "no-map"
  | noMatch => "no-match"

/-- The best position that is known, and how it was found. -/
structure Resolution where
  outcome : Outcome
  position : Position

structure Work (ε α : Type) where
  result : Except ε α
  cache : Cache
  opened : List Text
  notes : List Note

/-- One piece of work after another, the second with the result of the first. -/
def Work.andThen {ε α β : Type} (first : Work ε α) (second : α → Cache → Work ε β) : Work ε β :=
  match first.result with
  | .error fault => ⟨.error fault, first.cache, first.opened, first.notes⟩
  | .ok a =>
    let next := second a first.cache
    ⟨next.result, next.cache, first.opened ++ next.opened, first.notes ++ next.notes⟩

def Work.map {ε δ α β : Type} (onFault : ε → δ) (onResult : α → β) (work : Work ε α) : Work δ β :=
  { work with
    result :=
      match work.result with
      | .error fault => .error (onFault fault)
      | .ok a => .ok (onResult a) }

namespace Resolver

/-- The entry of a generated file, from the cache or else by loading it. A load without an entry and
a load with a fault leave the cache as it was. -/
def entry (disk : Disk) (cache : Cache) (generated : Text) : Work Fault (Option Entry) :=
  match cache.get? generated with
  | some known => ⟨.ok (some known), cache, [], []⟩
  | none =>
    let loading := load disk generated
    match loading.outcome with
    | .ok (some found) =>
      ⟨.ok (some found), cache.insertNew generated found, loading.opened, loading.notes⟩
    | outcome => ⟨outcome, cache, loading.opened, loading.notes⟩

/-- The path of a source as the report names it. A source of an inline map has no directory, so the
beginning of the data URL stands before it. -/
def sourcePath (disk : Disk) (entry : Entry) (source : Value) : Except Fault Text :=
  match entry, source with
  | .external path _, .str s =>
    match Url.toPath s with
    | .ok name => .ok (besides disk path name)
    | .error .badHost => .error .badUrl
  | .external _ _, _ => .error .sourceNotText
  | _, .str s => .ok (Directive.inlineStart ++ s)
  | _, _ => .error .wrongKind

/-- The position that an entry leads to, and the remark that is made if it leads nowhere. -/
def answer (disk : Disk) (entry : Option Entry) (p : Position) :
    Except Fault Resolution × List Note :=
  match entry with
  | none => (.ok ⟨.noMap, p⟩, [])
  | some entry =>
    match entry.sourceMap? with
    | none => (.ok ⟨.noMap, p⟩, [])
    | some sourceMap =>
      match sourceMap.origin? p.line p.column .greatestLowerBound with
      | .error .notAPosition => (.error .wrongKind, [])
      | .ok none => (.ok ⟨.noMatch, p⟩, [.noMapping])
      | .ok (some origin) =>
        match sourcePath disk entry origin.source with
        | .error fault => (.error fault, [])
        | .ok path =>
          (.ok ⟨.found, ⟨path, .int origin.line, .int origin.column⟩⟩, [])

def lookup (disk : Disk) (cache : Cache) (p : Position) : Work Fault Resolution :=
  (entry disk cache p.source).andThen fun found cache =>
    let (result, notes) := answer disk found p
    ⟨result, cache, [], notes⟩

def resolve (disk : Disk) (cache : Cache) (p : Position) : Work Fault Position :=
  (lookup disk cache p).map id Resolution.position

end Resolver

end LintReport
