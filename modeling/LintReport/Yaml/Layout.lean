import LintReport.Yaml.Token

/-!
# The layout of YAML text

Indentation makes collections: a collection begins where an item is indented further than the
collection around it and ends where a line is indented less. A key is known as such only by the
colon after it, so that tokens are put in front of it afterwards; until then the key is open.
-/

namespace LintReport.Yaml

/-- A token that is a key if a colon follows it on the same line. `number` is the number of tokens
before it. Where nothing but a key can stand it is required. -/
structure OpenKey where
  depth : Nat
  number : Nat
  required : Bool
  index : Nat
  line : Nat
  column : Nat

/-- What has been read of a text. The tokens come last first; `indent` is the column of the
innermost collection that is made by indentation and `outer` those of the collections around it;
`depth` counts the brackets that are open. -/
structure Layout where
  cursor : Cursor
  tokens : List Token
  indent : Int
  outer : List Int
  depth : Nat
  keyAllowed : Bool
  openKeys : List OpenKey
  finished : Bool

namespace Layout

def start (t : Text) : Layout :=
  ⟨Cursor.start t, [], -1, [], 0, true, [], false⟩

/-! ## Indentation -/

def emit (l : Layout) (token : Token) : Layout :=
  { l with tokens := token :: l.tokens }

/-- The layout with a token at the place after the first `number` tokens. -/
def insertAt (l : Layout) (number : Nat) (token : Token) : Layout :=
  let (later, earlier) := l.tokens.splitAt (l.tokens.length - number)
  { l with tokens := later ++ token :: earlier }

/-- The layout with all collections closed that are indented beyond a column. -/
def closeBeyond (column : Int) : (outer : List Int) → Layout → Layout
  | [], l => l
  | indent :: outer, l =>
    if column < l.indent then
      closeBeyond column outer { l with indent, outer, tokens := .blockEnd :: l.tokens }
    else l

/-- The layout with all collections closed that are indented beyond a column. In brackets there are
none. -/
def unwind (l : Layout) (column : Int) : Layout :=
  if l.depth = 0 then closeBeyond column l.outer l else l

def indentTo (l : Layout) (column : Nat) (place : Nat) (token : Token) : Layout :=
  if l.indent < column then
    ({ l with indent := column, outer := l.indent :: l.outer }).insertAt place token
  else l

/-- The layout with a collection that begins here. -/
def indentHere (l : Layout) (token : Token) : Layout :=
  if l.depth = 0 then l.indentTo l.cursor.column l.tokens.length token else l

/-! ## Open keys -/

/-- The layout without the open key of the present depth. It must not be required. -/
def dropKey (l : Layout) : Except Fault Layout :=
  if l.openKeys.any fun k => k.depth = l.depth && k.required then .error .token
  else .ok { l with openKeys := l.openKeys.filter fun k => k.depth ≠ l.depth }

/-- The layout with an open key at this place, if a key may stand here. -/
def openKey (l : Layout) : Except Fault Layout := do
  if !l.keyAllowed then return l
  let c := l.cursor
  let key : OpenKey :=
    ⟨l.depth, l.tokens.length, l.depth = 0 && l.indent == c.column, c.index, c.line, c.column⟩
  let l ← l.dropKey
  return { l with openKeys := key :: l.openKeys }

def keyLimit : Nat := 1024

/-- Whether a key is on another line, or too far back. -/
def OpenKey.isStale (k : OpenKey) (c : Cursor) : Bool :=
  k.line ≠ c.line || keyLimit < c.index - k.index

/-- The layout without open keys that can be keys no more. None of them may be required. -/
def dropStale (l : Layout) : Except Fault Layout :=
  if l.openKeys.any fun k => OpenKey.isStale k l.cursor && k.required then .error .token
  else .ok { l with openKeys := l.openKeys.filter fun k => !OpenKey.isStale k l.cursor }

/-- The number of tokens that are certain: those before the first open key. -/
def certain (l : Layout) : Nat :=
  l.openKeys.foldl (fun n k => min n k.number) l.tokens.length

/-! ## Tokens -/

/-- The place after blanks, comments and line breaks, and whether there was a line break. -/
def skipFill : (fuel : Nat) → (broken : Bool) → Cursor → Bool × Cursor
  | 0, broken, c => (broken, c)
  | fuel + 1, broken, c =>
    let c := c.skipSpaces.skipComment
    match c.lineBreak? with
    | none => (broken, c)
    | some (_, c) => skipFill fuel true c

def skip (l : Layout) : Layout :=
  let c := if l.cursor.index = 0 ∧ l.cursor.peek 0 = some byteOrderMark then l.cursor.next
    else l.cursor
  let (broken, c) := skipFill (c.rest.length + 1) false c
  { l with cursor := c, keyAllowed := l.keyAllowed || (broken && l.depth = 0) }

def take (l : Layout) (n : Nat) (token : Token) : Layout :=
  { l with cursor := l.cursor.advance n, tokens := token :: l.tokens }

/-- The layout at the beginning or the end of a document, or of the whole text. -/
def closeAll (l : Layout) : Except Fault Layout := do
  let l ← (l.unwind (-1)).dropKey
  return { l with keyAllowed := false }

def openBracket (l : Layout) (token : Token) : Except Fault Layout := do
  let l ← l.openKey
  return { l with depth := l.depth + 1, keyAllowed := true }.take 1 token

def closeBracket (l : Layout) (token : Token) : Except Fault Layout := do
  let l ← l.dropKey
  return { l with depth := l.depth - 1, keyAllowed := false }.take 1 token

/-- The layout after an indicator that begins an item: the collection that it belongs to may begin
here. -/
def item (l : Layout) (collection token : Token) (keyAllowed : Bool) : Except Fault Layout := do
  if l.depth = 0 && !l.keyAllowed then throw .token
  let l ← (l.indentHere collection).dropKey
  return { l with keyAllowed }.take 1 token

/-- The layout after a colon. If a key is open it is one now, and the mapping that it belongs to may
begin at it. -/
def colon (l : Layout) : Except Fault Layout :=
  match l.openKeys.find? fun k => k.depth = l.depth with
  | some k =>
    let l := { l with openKeys := l.openKeys.filter (fun k => k.depth ≠ l.depth) }
    let l := l.insertAt k.number .key
    let l := if l.depth = 0 then l.indentTo k.column k.number .blockMappingStart else l
    .ok ({ l with keyAllowed := false }.take 1 .value)
  | none => l.item .blockMappingStart .value (l.depth = 0)

/-- The layout after a token that a key may begin with. -/
def leaf (l : Layout) (read : Cursor → Except Fault (Token × Cursor)) : Except Fault Layout := do
  let l ← l.openKey
  let (token, c) ← read l.cursor
  return { l with cursor := c, keyAllowed := false }.emit token

/-- The layout after a plain scalar. A key may follow if a line ended after it. -/
def plainLeaf (l : Layout) : Except Fault Layout := do
  let l ← l.openKey
  let (t, broken, c) :=
    plain l.indent (l.depth ≠ 0) (l.cursor.rest.length + 1) false l.cursor
  return { l with cursor := c, keyAllowed := broken }.emit (.scalar true t)

def blockLeaf (l : Layout) (isFolded : Bool) : Except Fault Layout := do
  let l ← l.dropKey
  let (t, c) ← block isFolded l.indent l.cursor.next
  return { l with cursor := c, keyAllowed := true }.emit (.scalar false t)

def quotedToken (c : Cursor) : Except Fault (Token × Cursor) := do
  let (t, c) ← quoted ((c.peek 0).getD '"') (c.rest.length + 1) c.next
  return (.scalar false t, c)

/-- Whether a plain scalar begins with this character, of which the next one may decide. -/
def startsPlain (inFlow : Bool) (c : Char) (next : Option Char) : Bool :=
  !(isBreak c || isSpace c || "-?:,[]\x7b\x7d#&*!|>'\"%@\x60".toList.contains c) ||
    (!endsWord next && (c = '-' || (!inFlow && (c = '?' || c = ':'))))

def advance (l : Layout) : Except Fault Layout := do
  let l ← l.skip.dropStale
  let l := l.unwind l.cursor.column
  let atStart := l.cursor.column = 0
  let inFlow := l.depth ≠ 0
  let next := l.cursor.peek 1
  match l.cursor.peek 0 with
  | none =>
    let l ← l.closeAll
    return { l with openKeys := [], finished := true }.emit .textEnd
  | some c =>
    if c = '%' && atStart then
      let l ← l.closeAll
      let (token, c) ← directive l.cursor
      return { l with cursor := c }.emit token
    else if c = '-' && atStart && l.cursor.isAtMark '-' then
      return (← l.closeAll).take 3 .documentStart
    else if c = '.' && atStart && l.cursor.isAtMark '.' then
      return (← l.closeAll).take 3 .documentEnd
    else if c = '[' then l.openBracket .flowSequenceStart
    else if c = '\x7b' then l.openBracket .flowMappingStart
    else if c = ']' then l.closeBracket .flowSequenceEnd
    else if c = '\x7d' then l.closeBracket .flowMappingEnd
    else if c = ',' then
      let l ← { l with keyAllowed := true }.dropKey
      return l.take 1 .comma
    else if c = '-' && endsWord next then l.item .blockSequenceStart .entry true
    else if c = '?' && (inFlow || endsWord next) then l.item .blockMappingStart .key !inFlow
    else if c = ':' && (inFlow || endsWord next) then l.colon
    else if c = '*' then l.leaf fun c => (nodeName c).map fun (name, c) => (.alias name, c)
    else if c = '&' then l.leaf fun c => (nodeName c).map fun (name, c) => (.anchor name, c)
    else if c = '!' then l.leaf tag
    else if (c = '|' || c = '>') && !inFlow then l.blockLeaf (c = '>')
    else if c = '\'' || c = '"' then l.leaf quotedToken
    else if startsPlain inFlow c next then l.plainLeaf
    else throw .token

/-! ## The whole text -/

/-- The tokens after the next one, and the place there, if `more` follows the text. -/
def outcome (l : Layout) (more : Text) : Option (List Token × Nat) :=
  match { l with cursor := { l.cursor with rest := l.cursor.rest ++ more } }.advance with
  | .ok next => some (next.tokens, next.cursor.index)
  | .error _ => none

/-- Texts of which at least one continues what can be continued, and one ends it. -/
def continuations : List Text := [
  "a ", " a", "\n", ": ", "! a\n", " !a! a\n", ".1\n", "> ", "'", "\"", "00000000\"",
  "-- ", "- ", ".. ", ". "]

/-- Whether the next token depends on what follows the text. -/
def needsMore (l : Layout) : Bool :=
  continuations.any fun more => l.outcome more != l.outcome []

/-- The certain tokens and a fault after them. -/
def broken (l : Layout) (fault : Fault) : List Token :=
  l.tokens.reverse.take l.certain ++ [.broken fault]

/-- The tokens of the text. A fault shows where the next token after the certain ones is asked for.
-/
def allTokens : (fuel : Nat) → Layout → List Token
  | 0, l => l.broken .token
  | fuel + 1, l =>
    if l.finished then l.tokens.reverse
    else
      match l.advance.bind dropStale with
      | .ok next => allTokens fuel next
      | .error fault => l.broken fault

/-- Whether the text ends here, or before it can be seen whether a line is the mark of a document.
This is looked at where a line begins with a hyphen or a dot, and where it begins in a scalar. -/
def isAtEnd (l : Layout) (first : Cursor) : Bool :=
  let c := l.cursor
  let beginsLikeMark := first.column = 0 && (first.peek 0 = some '-' || first.peek 0 = some '.')
  let isInScalar := c.line ≠ first.line && first.peek 0 ≠ some '|' && first.peek 0 ≠ some '>'
  c.rest.isEmpty || (beginsLikeMark && decide (first.rest.length < 3)) ||
    (isInScalar && (decide (c.column + c.rest.length < 3) ||
      (c.column = 0 && c.rest.length = 3 && c.isAtSeparator)))

/-- Whether the text ends here or after a character that may begin no token, which is refused only
after a look at the next one. -/
def isAtLast (c : Cursor) : Bool :=
  match c.rest with
  | [] => true
  | [last] => "\t@%|>\x60".toList.contains last
  | _ => false

/-- The tokens of the text, which a forbidden character follows. It is found where blanks or a token
reach up to it, or where a token depends on it. -/
def tokensBefore : (fuel : Nat) → Layout → List Token
  | 0, l => l.broken .token
  | fuel + 1, l =>
    match l.advance with
    | .error fault =>
      l.broken (if isAtLast l.skip.cursor || l.needsMore then .character else fault)
    | .ok next =>
      if next.isAtEnd l.skip.cursor || ((next.cursor.rest.drop 4).isEmpty && l.needsMore) then
        l.broken .character
      else
        match next.dropStale with
        | .ok next => tokensBefore fuel next
        | .error fault => l.broken fault

end Layout

/-- The number of characters that are looked at before the first token. -/
def firstPortion : Nat := 8192

/-- The number of characters that are looked at together later on. -/
def portion : Nat := 4096

/-- The tokens of a text. A forbidden character is found with the portion of the text that it is
in, when that portion is first needed. -/
def tokens (t : Text) : List Token :=
  match t.findIdx? fun c => !isAllowed c with
  | none => (Layout.start t).allTokens (t.length + 2)
  | some index =>
    if index < firstPortion then [.broken .character]
    else
      let before := t.take (index - (index - firstPortion) % portion)
      (Layout.start before).tokensBefore (before.length + 2)

end LintReport.Yaml
