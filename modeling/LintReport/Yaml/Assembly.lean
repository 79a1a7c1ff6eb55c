import LintReport.Yaml.Merge

/-!
# Making values of nodes

The value of a scalar is made at once. A collection is made empty and filled later, after all
collections that were made before it, so that it may hold itself.
-/

namespace LintReport.Yaml.Assembly

/-! ## Scalars -/

def scalarText : (fuel number : Nat) → Making Text
  | 0, _ => throw .endless
  | fuel + 1, number => do
    match (← node number).content with
    | .scalar t => return t
    | .sequence _ => throw .value
    | .mapping entries =>
      match ← entries.findM? fun entry => do return (← kindOf entry.1) = .plainValue with
      | some (_, value) => scalarText fuel value
      | none => throw .value

def scalarValue (number : Nat) (kind : Kind) : Making Value := do
  let t ← scalarText ((← get).nodes.size + 1) number
  match kind, (← node number).content with
  | .date, .mapping _ => throw .mappingAsDate
  | _, _ => kind.read t

/-! ## Collections -/

/-- Remembers what has been made of a node. -/
def put (number : Nat) (made : Made) : Making Unit :=
  modify fun a => { a with made := a.made.setIfInBounds number (some made) }

/-- Makes an empty collection that waits to be filled. -/
def await (number : Nat) (made : Made) : Making Unit := do
  put number made
  modify fun a => { a with waiting := a.waiting ++ [number] }

/-- Makes the value of a node, unless that has been done. -/
def make (number : Nat) : Making Unit := do
  match (← get).made[number]?.join with
  | some _ => return
  | none =>
    match ← kindOf number with
    | .sequence => await number (.items [])
    | .mapping => await number (.entries [])
    | .set => await number (.members [])
    | .pairs => await number (.pairs [])
    | .merge | .plainValue | .unknown => throw .value
    | kind => put number (.leaf (← scalarValue number kind))

/-- The value of a key, which has to be that of a scalar. -/
def makeKey (number : Nat) : Making Value := do
  make number
  match (← get).made[number]?.join with
  | some (.leaf v) => return v
  | _ => throw .value

/-- The entries of a mapping by the values of their keys; of several with the same key the last one
counts, in the place of the first one. -/
def makeEntries (number : Nat) : Making (List (Value × Nat)) := do
  let _ ← entriesOf number
  mergeAll number
  (← entriesOf number).foldlM (fun made entry => do
    let key ← makeKey entry.1
    make entry.2
    return Value.putEntry key entry.2 made) []

def itemsOf (number : Nat) : Making (List Nat) := do
  match (← node number).content with
  | .sequence items => return items
  | _ => throw .value

def makePair (number : Nat) : Making (Nat × Nat) := do
  match ← entriesOf number with
  | [(key, value)] =>
    make key
    make value
    return (key, value)
  | _ => throw .value

def fill (number : Nat) : Making Unit := do
  match ← kindOf number with
  | .sequence =>
    let items ← itemsOf number
    items.forM make
    put number (.items items)
  | .mapping => put number (.entries (← makeEntries number))
  | .set => put number (.members ((← makeEntries number).map (·.1)))
  | .pairs => put number (.pairs (← (← itemsOf number).mapM makePair))
  | _ => return

/-- Fills all collections that wait. -/
def fillAll : (fuel : Nat) → Making Unit
  | 0 => return
  | fuel + 1 => do
    match (← get).waiting with
    | [] => return
    | number :: waiting =>
      modify fun a => { a with waiting }
      fill number
      fillAll fuel

/-- What is made of all nodes, beginning with the node that all others are part of. -/
def ofNodes (root : Nat) (nodes : Array Node) : Except Fault (Array (Option Made)) := do
  let making : Making Unit := do
    make root
    fillAll (nodes.size + 1)
  let (_, assembly) ← making.run ⟨nodes, Array.replicate nodes.size none, []⟩
  return assembly.made

end LintReport.Yaml.Assembly
