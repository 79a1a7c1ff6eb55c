import LintReport.Yaml.Node

/-!
# Merged entries

A mapping may have an entry that merges the entries of other mappings into it. Merging changes the
nodes: the merged entries come before those of the mapping itself, and the entry that asks for them
is gone. A mapping may be merged into itself.
-/

namespace LintReport.Yaml

inductive Made where
  | leaf (v : Value)
  | items (numbers : List Nat)
  | entries (es : List (Value × Nat))
  | members (keys : List Value)
  | pairs (ps : List (Nat × Nat))

structure Assembly where
  nodes : Array Node
  made : Array (Option Made)
  waiting : List Nat

abbrev Making := StateT Assembly (Except Fault)

namespace Assembly

def node (number : Nat) : Making Node := do
  return ((← get).nodes[number]?).getD Node.absent

def kindOf (number : Nat) : Making Kind := do
  return (← node number).kind

def entriesOf (number : Nat) : Making (List (Nat × Nat)) := do
  match (← node number).content with
  | .mapping entries => return entries
  | _ => throw .value

def setEntries (number : Nat) (entries : List (Nat × Nat)) : Making Unit :=
  modify fun a => { a with nodes := a.nodes.modify number ({ · with content := .mapping entries }) }

/-- Makes the key that stands for a plain value a text. -/
def settleKey (number : Nat) : Making Unit :=
  modify fun a =>
    { a with nodes := a.nodes.modify number fun node =>
        if node.kind = .plainValue then { node with kind := .text } else node }

/-- The entries before the first one that merges, and the rest. -/
def upToMerge : List (Nat × Nat) → Making (List (Nat × Nat) × List (Nat × Nat))
  | [] => return ([], [])
  | (key, value) :: rest => do
    if (← kindOf key) = .merge then return ([], (key, value) :: rest)
    let (before, rest) ← upToMerge rest
    return ((key, value) :: before, rest)

/-- Merges what the merging entries of a mapping name, from the entry at a place on, after the
entries that have been found so far. The mappings of a sequence are merged with the last one
first. -/
def merge : (fuel number place : Nat) → (found : List (Nat × Nat)) → Making Unit
  | 0, _, _, _ => throw .value
  | fuel + 1, number, place, found => do
    let merged (number : Nat) : Making (List (Nat × Nat)) := do
      let _ ← entriesOf number
      merge fuel number 0 []
      entriesOf number
    let entries ← entriesOf number
    let (before, rest) ← upToMerge (entries.drop place)
    before.forM fun entry => settleKey entry.1
    match rest with
    | [] => if !found.isEmpty then setEntries number (found ++ entries)
    | (_, value) :: after =>
      setEntries number (entries.take place ++ before ++ after)
      let more ← match (← node value).content with
        | .mapping _ => merged value
        | .sequence items => do
          let all ← items.mapM merged
          pure all.reverse.flatten
        | .scalar _ => throw .value
      merge fuel number (place + before.length) (found ++ more)

/-- The number of entries of all mappings, which is no less than that of the merging ones. -/
def entryCount (nodes : Array Node) : Nat :=
  nodes.foldl (fun n node =>
    match node.content with
    | .mapping entries => n + entries.length
    | _ => n) 0

def mergeAll (number : Nat) : Making Unit := do
  merge (entryCount (← get).nodes + 2) number 0 []

end Assembly

end LintReport.Yaml
