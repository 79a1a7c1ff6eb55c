import LintReport.Yaml.Layout
import LintReport.Yaml.Word

/-!
# Nodes

The tokens of a text make nodes, of which collections hold others. A node may have a name, by which
it stands again at a later place, even inside of itself, and a tag. Nodes are known by their numbers
in the order in which they begin. A text holds one node that all others are part of, or none.
-/

namespace LintReport.Yaml

/-- What a node holds: a text, or the numbers of other nodes. -/
inductive Content where
  | scalar (t : Text)
  | sequence (items : List Nat)
  | mapping (entries : List (Nat × Nat))

structure Node where
  kind : Kind
  content : Content

namespace Node

/-- The node that stands where there is none. -/
def absent : Node := ⟨.null, .scalar []⟩

structure Stage where
  tokens : List Token
  nodes : Array Node
  names : List (Text × Nat)
  handles : List (Text × Text)
  room : Nat

abbrev Reading := StateT Stage (Except Fault)

/-! ## Tokens -/

def peek : Reading Token := do
  match (← get).tokens with
  | [] => throw .token
  | .broken fault :: _ => throw fault
  | token :: _ => return token

def drop : Reading Unit :=
  modify fun stage => { stage with tokens := stage.tokens.tail }

def isNext (expected : List Token) : Reading Bool := do
  return expected.contains (← peek)

/-- Goes on if the next token is this one, and says whether it is. -/
def skip? (token : Token) : Reading Bool := do
  if (← peek) = token then
    drop
    return true
  return false

/-- Goes on if the next token is this one, which it has to be. -/
def expect (token : Token) : Reading Unit := do
  if !(← skip? token) then throw .tree

/-! ## Names and tags -/

/-- A new node, with a name that no other node may have. -/
def begin (name : Option Text) (node : Node) : Reading Nat := do
  let stage ← get
  let number := stage.nodes.size
  let nodes := stage.nodes.push node
  match name with
  | none =>
    set { stage with nodes }
    return number
  | some name =>
    if (stage.names.lookup name).isSome then throw .reference
    set { stage with nodes, names := (name, number) :: stage.names }
    return number

def fill (number : Nat) (content : Content) : Reading Unit :=
  modify fun stage => { stage with nodes := stage.nodes.modify number ({ · with content }) }

/-- Reads what a collection holds. -/
def inside {α : Type} (content : Reading α) : Reading α := do
  let stage ← get
  match stage.room with
  | 0 => throw .tooDeep
  | room + 1 =>
    set { stage with room }
    let found ← content
    modify fun stage => { stage with room := room + 1 }
    return found

def named (name : Text) : Reading Nat := do
  match (← get).names.lookup name with
  | some number => return number
  | none => throw .reference

def standardHandles : List (Text × Text) := [("!", "!"), ("!!", "tag:yaml.org,2002:")]

/-- The name and the tag that stand before a node, in either order. -/
def properties : Reading (Option Text × Option (Option Text × Text)) := do
  match ← peek with
  | .anchor name =>
    drop
    match ← peek with
    | .tag handle suffix =>
      drop
      return (some name, some (handle, suffix))
    | _ => return (some name, none)
  | .tag handle suffix =>
    drop
    match ← peek with
    | .anchor name =>
      drop
      return (some name, some (handle, suffix))
    | _ => return (none, some (handle, suffix))
  | _ => return (none, none)

def wholeTag : Option (Option Text × Text) → Reading (Option Text)
  | none => return none
  | some (none, suffix) => return some suffix
  | some (some handle, suffix) => do
    match (← get).handles.lookup handle with
    | some start => return some (start ++ suffix)
    | none => throw .tree

/-- The kind that a tag asks for. Without a tag, and for an exclamation mark, it is `other`. -/
def kindOr (other : Kind) : Option Text → Kind
  | none => other
  | some tag => if tag = ['!'] then other else Kind.ofTag tag

/-- The kind of a scalar: its form decides only if it is plain, or if its tag is an exclamation
mark. -/
def scalarKind (isPlain : Bool) (tag : Option Text) (t : Text) : Kind :=
  kindOr (if isPlain || tag = some ['!'] then Kind.ofWord t else .text) tag

/-! ## Nodes -/

mutual

/-- A node. The value of an entry may be a sequence that is not indented further than the entry;
this is so if `isEntry` holds. -/
def node (isEntry : Bool) : (fuel : Nat) → Reading Nat
  | 0 => throw .tree
  | fuel + 1 => do
    match ← peek with
    | .alias name =>
      drop
      named name
    | _ =>
      let (name, tag) ← properties
      let tag ← wholeTag tag
      let sequence (items : Reading (List Nat)) : Reading Nat := do
        let number ← begin name ⟨kindOr .sequence tag, .sequence []⟩
        fill number (.sequence (← inside items))
        return number
      let mapping (entries : Reading (List (Nat × Nat))) : Reading Nat := do
        let number ← begin name ⟨kindOr .mapping tag, .mapping []⟩
        fill number (.mapping (← inside entries))
        return number
      let scalar (isPlain : Bool) (t : Text) : Reading Nat :=
        begin name ⟨scalarKind isPlain tag t, .scalar t⟩
      match ← peek, isEntry with
      | .entry, true => sequence (listItems fuel)
      | .scalar isPlain t, _ =>
        drop
        scalar (isPlain && tag.isNone) t
      | .flowSequenceStart, _ => sequence (do drop; flowItems true fuel)
      | .flowMappingStart, _ => mapping (do drop; flowEntries true fuel)
      | .blockSequenceStart, _ => sequence (do drop; blockItems fuel)
      | .blockMappingStart, _ => mapping (do drop; blockEntries fuel)
      | _, _ => if name.isSome || tag.isSome then scalar tag.isNone [] else throw .tree

/-- A node, or an absent one if one of these tokens comes. -/
def nodeBefore (isEntry : Bool) (ends : List Token) : (fuel : Nat) → Reading Nat
  | 0 => throw .tree
  | fuel + 1 => do
    if ← isNext ends then begin none absent else node isEntry fuel

def blockItems : (fuel : Nat) → Reading (List Nat)
  | 0 => throw .tree
  | fuel + 1 => do
    if ← skip? .entry then
      let item ← nodeBefore false [.entry, .blockEnd] fuel
      return item :: (← blockItems fuel)
    expect .blockEnd
    return []

def listItems : (fuel : Nat) → Reading (List Nat)
  | 0 => throw .tree
  | fuel + 1 => do
    if ← skip? .entry then
      let item ← nodeBefore false [.entry, .key, .value, .blockEnd] fuel
      return item :: (← listItems fuel)
    return []

/-- The value of an entry, or an absent node if there is none. -/
def entryValue (isEntry : Bool) (ends : List Token) : (fuel : Nat) → Reading Nat
  | 0 => throw .tree
  | fuel + 1 => do
    if ← skip? .value then nodeBefore isEntry ends fuel else begin none absent

def blockEntries : (fuel : Nat) → Reading (List (Nat × Nat))
  | 0 => throw .tree
  | fuel + 1 => do
    let ends : List Token := [.key, .value, .blockEnd]
    if ← skip? .key then
      let key ← nodeBefore true ends fuel
      let value ← entryValue true ends fuel
      return (key, value) :: (← blockEntries fuel)
    expect .blockEnd
    return []

/-- The items of a sequence in brackets. An item may be a mapping of one entry. -/
def flowItems (isFirst : Bool) : (fuel : Nat) → Reading (List Nat)
  | 0 => throw .tree
  | fuel + 1 => do
    let ends : List Token := [.comma, .flowSequenceEnd]
    if ← skip? .flowSequenceEnd then return []
    if !isFirst then expect .comma
    if ← skip? .key then
      let number ← begin none ⟨.mapping, .mapping []⟩
      let entry ← inside do
        return (← nodeBefore false (.value :: ends) fuel, ← entryValue false ends fuel)
      fill number (.mapping [entry])
      return number :: (← flowItems false fuel)
    if ← skip? .flowSequenceEnd then return []
    let item ← node false fuel
    return item :: (← flowItems false fuel)

/-- The entries of a mapping in braces. A key may have no value. -/
def flowEntries (isFirst : Bool) : (fuel : Nat) → Reading (List (Nat × Nat))
  | 0 => throw .tree
  | fuel + 1 => do
    let ends : List Token := [.comma, .flowMappingEnd]
    if ← skip? .flowMappingEnd then return []
    if !isFirst then expect .comma
    if ← skip? .key then
      let key ← nodeBefore false (.value :: ends) fuel
      let value ← entryValue false ends fuel
      return (key, value) :: (← flowEntries false fuel)
    if ← skip? .flowMappingEnd then return []
    let key ← node false fuel
    let value ← begin none absent
    return (key, value) :: (← flowEntries false fuel)

end

/-! ## Documents -/

def directives : (fuel : Nat) → (hasVersion : Bool) → List (Text × Text) → Reading Unit
  | 0, _, _ => throw .tree
  | fuel + 1, hasVersion, handles => do
    match ← peek with
    | .directive (.version major _) =>
      if hasVersion || major ≠ 1 then throw .tree
      drop
      directives fuel true handles
    | .directive (.tag handle start) =>
      if (handles.lookup handle).isSome then throw .tree
      drop
      directives fuel hasVersion ((handle, start) :: handles)
    | .directive .other =>
      drop
      directives fuel hasVersion handles
    | _ => modify fun stage => { stage with handles := handles ++ standardHandles }

def documentEnds : (fuel : Nat) → Reading Unit
  | 0 => throw .tree
  | fuel + 1 => do
    if ← skip? .documentEnd then documentEnds fuel

/-- Reads up to the mark of the next document, and says whether there is one. -/
def nextDocument (fuel : Nat) : Reading Bool := do
  documentEnds fuel
  if ← isNext [.textEnd] then return false
  directives fuel false []
  expect .documentStart
  return true

def markedDocument (fuel : Nat) : Reading Nat := do
  match ← peek with
  | .directive _ | .documentStart | .documentEnd | .textEnd => begin none absent
  | _ => node false fuel

/-- The node of the only document of a text, if there is one. The first document needs no mark. -/
def document (fuel : Nat) : Reading (Option Nat) := do
  let first ← match ← peek with
    | .directive _ | .documentStart | .textEnd =>
      if ← nextDocument fuel then some <$> markedDocument fuel else pure none
    | _ => some <$> node false fuel
  match first with
  | none => return none
  | some found =>
    if ← nextDocument fuel then throw .reference
    return some found

/-- The nodes of a text in which no more than `depth` collections stand in each other, and the
number of the one that all others are part of. -/
def ofText (depth : Nat) (t : Text) : Except Fault (Option Nat × Array Node) := do
  let tokens := Yaml.tokens t
  let start : Stage := ⟨tokens, #[], [], standardHandles, depth⟩
  let (root, stage) ← (document (4 * tokens.length + 4)).run start
  return (root, stage.nodes)

end Node

end LintReport.Yaml
