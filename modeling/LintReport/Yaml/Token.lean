import LintReport.Text.Utf8
import LintReport.Yaml.Scalar

/-!
# Tokens

The tokens of YAML, and those of them that are read without regard to the layout of the text:
directives, names of nodes, and tags.
-/

namespace LintReport.Yaml

inductive Directive where
  | version (major minor : Nat)
  | tag (handle start : Text)
  | other
  deriving DecidableEq

/-- A piece of a text. A `broken` token stands where the rest of the text makes none. -/
inductive Token where
  | directive (d : Directive)
  | documentStart
  | documentEnd
  | textEnd
  | blockSequenceStart
  | blockMappingStart
  | blockEnd
  | flowSequenceStart
  | flowSequenceEnd
  | flowMappingStart
  | flowMappingEnd
  | entry
  | comma
  | key
  | value
  | alias (name : Text)
  | anchor (name : Text)
  | tag (handle : Option Text) (suffix : Text)
  | scalar (isPlain : Bool) (text : Text)
  | broken (fault : Fault)
  deriving DecidableEq

/-! ## Names -/

/-- Whether the character may come right after the name of a node. -/
def endsName : Option Char → Bool
  | none => true
  | some c => endsWord (some c) || "?:,]\x7d%@\x60".toList.contains c

def nodeName (c : Cursor) : Except Fault (Text × Cursor) :=
  let (name, c) := c.next.span isNameChar
  if name.isEmpty || !endsName (c.peek 0) then .error .token else .ok (name, c)

/-! ## Tags -/

def isAddressChar (c : Char) : Bool :=
  c.isAlphanum || "-;/?:@&=+$,_.!~*'()[]".toList.contains c

def percentBytes : Text → Option (List UInt8 × Text)
  | '%' :: a :: b :: rest => do
    let byte ← Decimal.naturalIn? 16 [a, b]
    let (bytes, rest) ← percentBytes rest
    return (UInt8.ofNat byte :: bytes, rest)
  | '%' :: _ => none
  | rest => some ([], rest)

/-- An address, in which bytes of characters may be written after percent signs. It may be empty. -/
def address : (fuel : Nat) → Cursor → Except Fault (Text × Cursor)
  | 0, c => .ok ([], c)
  | fuel + 1, c => do
    let (part, c) := c.span isAddressChar
    if c.peek 0 ≠ some '%' then return (part, c)
    match percentBytes c.rest with
    | none => throw .token
    | some (bytes, rest) =>
      match Utf8.decode? bytes with
      | none => throw .token
      | some t =>
        let (more, c) ← address fuel (c.advance (c.rest.length - rest.length))
        return (part ++ t ++ more, c)

def someAddress (c : Cursor) : Except Fault (Text × Cursor) := do
  let (found, after) ← address (c.rest.length + 1) c
  if found.isEmpty then throw .token else return (found, after)

/-- The handle of a tag: an exclamation mark, or a name between two of them. -/
def tagHandle (c : Cursor) : Except Fault (Text × Cursor) :=
  if c.peek 0 ≠ some '!' then .error .token
  else
    let c := c.next
    if c.peek 0 = some ' ' then .ok (['!'], c)
    else
      let (name, c) := c.span isNameChar
      if c.peek 0 = some '!' then .ok ('!' :: name ++ ['!'], c.next) else .error .token

/-- Whether a tag or a directive may end before what comes next. -/
def endsTag (next : Option Char) : Bool :=
  endsLine next || next = some ' '

def tag (c : Cursor) : Except Fault (Token × Cursor) := do
  let (token, c) : Token × Cursor ←
    if c.peek 1 = some '<' then do
      let (suffix, c) ← someAddress (c.advance 2)
      if c.peek 0 ≠ some '>' then throw .token
      pure (.tag none suffix, c.next)
    else if endsWord (c.peek 1) then
      pure (.tag none ['!'], c.next)
    else do
      let word := c.next.rest.takeWhile fun x => !endsTag (some x)
      let (handle, c) ← if word.contains '!' then tagHandle c else pure (['!'], c.next)
      let (suffix, c) ← someAddress c
      pure (.tag (some handle) suffix, c)
  if endsTag (c.peek 0) then return (token, c) else throw .token

/-! ## Directives -/

def versionNumber (c : Cursor) : Except Fault (Nat × Cursor) :=
  let (digits, c) := c.span Decimal.isDigit
  match Decimal.naturalIn? 10 digits with
  | some n => .ok (n, c)
  | none => .error .token

def directiveEnd (c : Cursor) : Except Fault Cursor :=
  let c := c.skipSpaces.skipComment
  if endsLine (c.peek 0) then .ok c.next else .error .token

def directiveBody (name : Text) (c : Cursor) : Except Fault (Directive × Cursor) := do
  if name = "YAML" then
    let (major, c) ← versionNumber c.skipSpaces
    if c.peek 0 ≠ some '.' then throw .token
    let (minor, c) ← versionNumber c.next
    if endsTag (c.peek 0) then return (.version major minor, c) else throw .token
  else if name = "TAG" then
    let (handle, c) ← tagHandle c.skipSpaces
    if c.peek 0 ≠ some ' ' then throw .token
    let (start, c) ← someAddress c.skipSpaces
    if endsTag (c.peek 0) then return (.tag handle start, c) else throw .token
  else
    return (.other, (c.span fun x => !isBreak x).2)

def directive (c : Cursor) : Except Fault (Token × Cursor) := do
  let (name, c) := c.next.span isNameChar
  if name.isEmpty || !endsTag (c.peek 0) then throw .token
  let (found, c) ← directiveBody name c
  return (.directive found, ← directiveEnd c)

end LintReport.Yaml
