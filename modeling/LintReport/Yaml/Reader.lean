import LintReport.Yaml.Assembly

/-!
# Values of YAML files

Scalars become null, truth values, numbers, dates, bytes and texts, and collections become lists,
mappings, sets and lists of pairs. A collection that stands inside of itself is not written out
there.
-/

namespace LintReport.Yaml

/-! ## Sets -/

/-- The number of places of the table that the members of a set lie in: a power of two that is more
than twice the number of members, but eight places are enough for four members. -/
def placeCount (members : Nat) : Nat :=
  if members ≤ 4 then 8 else Nat.pow 2 (Nat.log2 (2 * members) + 1)

/-- The place of an integer in a table: its remainder. Minus one lies where minus two does. -/
def place? (places : Nat) : Value → Option Nat
  | .int n => some ((if n = -1 then -2 else n) % places).toNat
  | .bool b => some (if b then 1 else 0)
  | _ => none

/-- The members of a set in the order of their places. If two have the same place, or one is no
integer, they are in the order in which they came. -/
def inPlaces (members : List Value) : List Value :=
  let places := placeCount members.length
  match members.mapM (place? places) with
  | none => members
  | some used =>
    if used.Nodup then
      (List.range places).filterMap fun i => members.find? fun v => place? places v = some i
    else members

/-! ## Collections -/

/-- The value of the node with a number, and whether a collection stands inside of itself in it. The
collections around it are given by their numbers. Values without such collections are remembered. -/
def unfold (made : Array (Option Made)) : (fuel : Nat) → (around : List Nat) → Nat →
    StateM (Array (Option Value)) (Value × Bool)
  | 0, _, _ => return (.null, true)
  | fuel + 1, around, number => do
    if let some v := (← get)[number]?.join then return (v, false)
    let found := made[number]?.join.getD (.leaf .null)
    if around.contains number then
      let isMap := match found with
        | .entries _ => true
        | _ => false
      return (.enclosing isMap, true)
    let inside := unfold made fuel (number :: around)
    let (v, isOpen) ← match found with
      | .leaf v => pure (v, false)
      | .members keys => pure (.set (inPlaces keys), false)
      | .items numbers => do
        let vs ← numbers.mapM inside
        pure (.list (vs.map (·.1)), vs.any (·.2))
      | .entries es => do
        let vs ← es.mapM fun entry => inside entry.2
        pure (.map ((es.map (·.1)).zip (vs.map (·.1))), vs.any (·.2))
      | .pairs ps => do
        let vs ← ps.mapM fun pair => do return (← inside pair.1, ← inside pair.2)
        pure (.list (vs.map fun (x, y) => .pair x.1 y.1), vs.any fun (x, y) => x.2 || y.2)
    if !isOpen then modify fun known => known.setIfInBounds number (some v)
    return (v, isOpen)

/-- The value of the node that all others are part of. The values in a mapping are written out each
on its own. -/
def rootValue (made : Array (Option Made)) (root : Nat) : Value :=
  let written (number : Nat) := unfold made (made.size + 1) [] number
  let known := Array.replicate made.size none
  match made[root]?.join with
  | some (.entries es) =>
    let (vs, _) := (es.mapM fun entry => written entry.2).run known
    .map ((es.map (·.1)).zip (vs.map (·.1)))
  | _ => ((written root).run known).1.1

/-- The value that a text writes, in which no more than `depth` collections stand in each other;
null if it writes none. -/
def read (depth : Nat) (t : Text) : Except Fault Value := do
  match ← Node.ofText depth t with
  | (none, _) => return .null
  | (some root, nodes) => return rootValue (← Assembly.ofNodes root nodes) root

end LintReport.Yaml
