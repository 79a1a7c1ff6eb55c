import LintReport.Text.Blank
import LintReport.Toml.Basic

/-!
# The items of lists and tables in brackets

A bracketed value is cut at its commas. Where an item is quoted or bracketed itself, pieces that do
not look whole are put together again.
-/

namespace LintReport.Toml

/-! ## Texts -/

/-- Whether what stands between the brackets begins with a quote. -/
def isTextList (t : Text) : Bool :=
  startsQuoted (Text.trim (Text.inner t))

/-- Whether a text ends with the character that it begins with, which no backslash stands before. -/
def isBounded : Text → Bool
  | [] => true
  | first :: rest =>
    match rest.reverse with
    | [] => true
    | last :: before => last = first && !isEscapedAfter before

/-- Whether a text begins with three equal characters and neither of the two before its last one is
such a character. -/
def isOpenLong : Text → Bool
  | a :: b :: c :: rest =>
    a = b && b = c &&
      match (a :: b :: c :: rest).reverse with
      | _ :: y :: x :: _ => y ≠ a && x ≠ a
      | _ => false
  | _ => false

def isWholeText (piece : Text) : Bool :=
  let t := Text.trim piece
  isBounded t && !isOpenLong t

/-- The pieces of a list of texts, where pieces that are not whole take in the next ones. The last
piece counts as whole if it stands alone. -/
def joinTexts : (opened : Option Text) → (pieces : List Text) → Except Fault (List Text)
  | none, [] => .ok []
  | none, [piece] => .ok [piece]
  | none, piece :: pieces => do
    if isWholeText piece then return piece :: (← joinTexts none pieces)
    else joinTexts (some piece) pieces
  | some _, [] => .error .beyondEnd
  | some before, piece :: pieces => do
    let joined := before ++ ',' :: piece
    if isWholeText joined then return joined :: (← joinTexts none pieces)
    else joinTexts (some joined) pieces

/-! ## Tables in a list -/

/-- What the tables of a list in brackets are looked for by. -/
inductive Search where
  /-- The next character separates two tables. -/
  | separator
  /-- The next table has not begun. -/
  | between
  /-- The characters of a table so far come last first. -/
  | inside (before : Text) (quoted : Bool)

def tableTexts : (depth : Nat) → Search → Text → List Text
  | _, _, [] => []
  | depth, .separator, _ :: rest => tableTexts depth .between rest
  | depth, .between, c :: rest =>
    tableTexts depth (if c = '\x7b' then .inside [c] false else .between) rest
  | depth, .inside before quoted, c :: rest =>
    let quoted := if !isQuote c then quoted
      else if quoted && isEscapedAfter before then true
      else !quoted
    let depth := if !quoted && c = '\x7b' then depth + 1 else depth
    if quoted || c ≠ '\x7d' then tableTexts depth (.inside (c :: before) quoted) rest
    else if 1 < depth then tableTexts (depth - 1) (.inside (c :: before) quoted) rest
    else (c :: before).reverse :: tableTexts depth .separator rest

/-! ## Lists -/

/-- The pieces of a text between commas that are not in brackets. -/
def splitOutside : (depth : Int) → Text → List Text
  | _, [] => [[]]
  | depth, c :: rest =>
    let pieces := splitOutside
      (if c = '[' then depth + 1 else if c = ']' then depth - 1 else depth) rest
    if c = ',' && depth = 0 then [] :: pieces
    else
      match pieces with
      | [] => [[c]]
      | piece :: pieces => (c :: piece) :: pieces

def listItems (t : Text) : Except Fault (List Text) :=
  let t := Text.trim t
  let content := Text.inner t
  let (first, nested) := Text.breakAt (· = '[') content
  if !nested.isEmpty && (Text.trim first).isEmpty then .ok (splitOutside 0 content)
  else
    match content, Text.trim content with
    | c :: rest, '\x7b' :: _ =>
      .ok (tableTexts (if c = '\x7b' then 1 else 0) (.inside [c] false) rest)
    | _, _ =>
      let pieces := Text.split ',' content
      if isTextList t then joinTexts none pieces else .ok pieces

/-! ## Tables -/

def isWholeValue (t : Text) : Bool :=
  match t with
  | [] => false
  | first :: _ =>
    let last := t.getLast?
    (isQuote first && last = some first) || first = '-' || ('0' ≤ first && first ≤ '9') ||
      t = "true" || t = "false" || (first = '[' && last = some ']') ||
      (first = '\x7b' && last = some '\x7d')

/-- The pairs of a table, where pieces whose value does not look whole take in the next ones. -/
def joinPairs : (opened : Option Text) → (pieces : List Text) → Except Fault (List Text)
  | none, [] => .ok []
  | some _, [] => .error .malformed
  | opened, piece :: pieces => do
    let joined := match opened with
      | some before => before ++ ',' :: piece
      | none => piece
    match Text.breakAt (· = '=') joined with
    | (_, []) => throw .malformed
    | (_, _ :: value) =>
      let value := Text.trim value
      if value.isEmpty then throw .beyondEnd
      if isWholeValue value then return joined :: (← joinPairs none pieces)
      else joinPairs (some joined) pieces

def tablePairs (t : Text) : Except Fault (List Text) :=
  match Text.split ',' (Text.inner t) with
  | [piece] => if (Text.trim piece).isEmpty then .ok [] else joinPairs none [piece]
  | pieces => joinPairs none pieces

/-! ## Texts of several lines -/

/-- The last item of a list of texts that is not closed, from the pieces between commas, the last
one first. -/
def lastItem (item : Text) : (before : List Text) → Except Fault Text
  | [] => .ok item
  | piece :: before =>
    match item with
    | [] => .error .beyondEnd
    | c :: _ => if isQuote c then .ok item else lastItem (piece ++ ',' :: item) before

/-- The last item of a list of texts that is not closed; any other value itself. -/
def openItem (t : Text) : Except Fault Text :=
  if t.head? = some '[' && (Text.trim t).getLast? ≠ some ']' && isTextList t then
    match (Text.split ',' (Text.trim (t.drop 1))).reverse with
    | [] => .ok t
    | item :: before => lastItem item before
  else .ok t

/-- Whether a value goes on after its line: it begins with three quotes, and the line does not end
with three more. -/
def isContinued (t : Text) : Except Fault Bool := do
  if t.length < 3 then return false
  match ← openItem t with
  | a :: b :: rest =>
    if !isQuote a || b ≠ a then return false
    match rest with
    | [] => throw .beyondEnd
    | c :: rest =>
      return c = a && !(2 < rest.length && (rest.reverse.take 3).all (· = a))
  | [a] => if isQuote a then throw .beyondEnd else return false
  | [] => throw .beyondEnd

end LintReport.Toml
