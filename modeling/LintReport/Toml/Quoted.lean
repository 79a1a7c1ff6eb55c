import LintReport.Decimal.Radix
import LintReport.Toml.Basic

/-!
# Quoted texts of TOML

A text stands between double quotes, where backslashes start escapes, or between single quotes,
where all characters stand for themselves. Between three quotes of either kind it may have several
lines. Characters given by their code points are put in first, so that what they make with their
neighbours is read once more as escapes.
-/

namespace LintReport.Toml

/-! ## Escapes -/

def escape? (c : Char) : Option Char :=
  ([('0', 0), ('b', 8), ('f', 12), ('n', 10), ('r', 13), ('t', 9), ('"', 34)].lookup c).map
    Char.ofNat

/-- Whether the letter after a backslash starts a code point. -/
def startsCode (c : Char) : Bool :=
  c = 'u' || c = 'U'

/-- The text with each escape replaced by what it stands for. Code points stay. -/
def unescape : Text → Except Fault Text
  | [] => .ok []
  | ['\\'] => .ok ['\\']
  | '\\' :: c :: rest => do
    let more ← unescape rest
    match escape? c with
    | some found => return found :: more
    | none =>
      if c = '\\' then return c :: more
      else if startsCode c then return '\\' :: c :: more
      else throw .malformed
  | c :: rest => return c :: (← unescape rest)

/-- Whether the parts between backslashes begin like escapes. A backslash lies before the first of
them that stands for itself if `doubled` holds. -/
def escapesFit : (doubled : Bool) → (parts : List Text) → Bool
  | _, [] => true
  | doubled, [] :: parts => escapesFit (!doubled) parts
  | doubled, (c :: _) :: parts =>
    ((escape? c).isSome || startsCode c || doubled) && escapesFit false parts

/-! ## Code points -/

/-- The character whose code point hexadecimal digits write. It may have fewer digits than asked
for, and must not begin like a surrogate. -/
def coded (digits : Text) : Except Fault Char :=
  match digits, Decimal.naturalIn? 16 digits with
  | [], _ => .error .beyondEnd
  | _, none => .error .malformed
  | c :: rest, some code =>
    if (c = 'd' || c = 'D') && rest.isEmpty then .error .beyondEnd
    else if (c = 'd' || c = 'D') && rest.head?.any (fun d => (Decimal.digitIn? 8 d).isNone) then
      .error .malformed
    else if 0x80000000 ≤ code then .error .tooLarge
    else if 0x110000 ≤ code then .error .malformed
    else .ok (Char.ofNat code)

/-- The parts between the beginnings of code points of `length` digits put together. The first
beginning stands for itself if `doubled` holds; then the next one does so too if the part between
them ends in an odd number of backslashes. After a code point the next beginning always counts. -/
def putCodes (letter : Char) (length : Nat) : (doubled : Bool) → (parts : List Text) →
    Except Fault Text
  | _, [] => .ok []
  | true, part :: parts => do
    return '\\' :: letter :: part ++ (← putCodes letter length (endsEscaped part) parts)
  | false, part :: parts => do
    let c ← coded (part.take length)
    return c :: part.drop length ++ (← putCodes letter length false parts)

def decodeCodes (letter : Char) (length : Nat) (t : Text) : Except Fault Text :=
  match Text.splitAll ['\\', letter] t with
  | [] => .ok []
  | part :: parts => do return part ++ (← putCodes letter length (endsEscaped part) parts)

/-! ## Whole texts -/

/-- Whether nothing but quotes and escaped parts stands after the end of a text. The parts are those
between the quotes of the text. -/
def endsOnce (isLong : Bool) : (closed : Bool) → (quotes : Nat) → (parts : List Text) → Bool
  | _, _, [] => true
  | closed, quotes, [] :: parts => endsOnce isLong (closed || !isLong) (quotes + 1) parts
  | closed, quotes, part :: parts =>
    if endsEscaped part then endsOnce isLong closed quotes parts
    else if closed then false
    else if !isLong || 1 < quotes then endsOnce isLong true quotes parts
    else endsOnce isLong closed 0 parts

def isOneText (quote : Char) (t : Text) : Bool :=
  match Text.split quote (t.drop 1) with
  | [] :: [] :: parts => endsOnce true false 0 parts
  | parts => endsOnce false false 0 parts

def decodeEscapes (t : Text) : Except Fault Text := do
  if !escapesFit false ((Text.split '\\' t).drop 1) then throw .malformed
  unescape (← decodeCodes 'U' 8 (← decodeCodes 'u' 4 t))

/-- The text without one quote at both ends, or without three. -/
def dropQuotes (quote : Char) (t : Text) : Text :=
  match t with
  | _ :: second :: rest =>
    if second = quote && (rest.isEmpty || rest.head? = some second) then
      Text.inner (Text.inner (Text.inner t))
    else Text.inner t
  | _ => []

def quotedText (quote : Char) (t : Text) : Except Fault Text := do
  if !isOneText quote t then throw .malformed
  if quote = '"' then return dropQuotes quote (← decodeEscapes t)
  return dropQuotes quote t

end LintReport.Toml
