import LintReport.Decimal.Radix
import LintReport.Value.Basic

/-!
# Reading JSON

JSON texts with three additions: NaN, Infinity and -Infinity are numbers. An integer may have any
number of digits up to a limit, and of two entries with the same key the later wins. Control
characters in strings must be escaped, and nothing but blanks may follow the value.

Brackets and braces may be nested only as deep as the reader is told, and it goes down by that
depth. Along a list or an object it goes with a bound on the number of elements, for which the
length of the text is enough, since each element uses up at least one character.

A text is a sequence of characters, and a surrogate is none. So a lone surrogate, which a string may
well write, is read as U+FFFD, and strings that differ in lone surrogates only are read as one text.
-/

namespace LintReport.Json

inductive Fault where
  | malformed
  /-- An integer has more digits than are read. -/
  | numberTooLong
  /-- Brackets and braces are nested deeper than they may be. -/
  | tooDeep
  deriving DecidableEq

def isBlank (c : Char) : Bool :=
  c = ' ' || c = '\t' || c = '\n' || c = '\r'

/-- The text from its first character that is not blank. -/
def skip (t : Text) : Text :=
  t.dropWhile isBlank

def hexCode? (a b c d : Char) : Option Nat := do
  let a ← Decimal.digitIn? 16 a
  let b ← Decimal.digitIn? 16 b
  let c ← Decimal.digitIn? 16 c
  let d ← Decimal.digitIn? 16 d
  return ((a * 16 + b) * 16 + c) * 16 + d

def escape? (c : Char) : Option Char :=
  if c = '"' ∨ c = '\\' ∨ c = '/' then some c
  else if c = 'b' then some (Char.ofNat 8)
  else if c = 'f' then some (Char.ofNat 12)
  else if c = 'n' then some '\n'
  else if c = 'r' then some '\r'
  else if c = 't' then some '\t'
  else none

/-- The codes of a string up to its closing quote, and the text after that. -/
def stringCodes? : Text → Option (List Nat × Text)
  | [] => none
  | '"' :: rest => some ([], rest)
  | '\\' :: 'u' :: a :: b :: c :: d :: rest => do
    let code ← hexCode? a b c d
    let (codes, after) ← stringCodes? rest
    return (code :: codes, after)
  | '\\' :: c :: rest => do
    let e ← escape? c
    let (codes, after) ← stringCodes? rest
    return (e.toNat :: codes, after)
  | c :: rest => do
    guard (0x20 ≤ c.toNat ∧ c ≠ '\\')
    let (codes, after) ← stringCodes? rest
    return (c.toNat :: codes, after)

/-- The text of a sequence of codes, in which two neighbouring surrogates are one character. A lone
surrogate is read as U+FFFD. -/
def ofCodes : List Nat → Text
  | [] => []
  | [code] => [single code]
  | high :: low :: rest =>
    if 0xD800 ≤ high ∧ high < 0xDC00 ∧ 0xDC00 ≤ low ∧ low < 0xE000 then
      Char.ofNat (0x10000 + (high - 0xD800) * 0x400 + (low - 0xDC00)) :: ofCodes rest
    else
      single high :: ofCodes (low :: rest)
where
  single (code : Nat) : Char :=
    if 0xD800 ≤ code ∧ code < 0xE000 then Char.ofNat 0xFFFD else Char.ofNat code

/-- The values of the ASCII digits that a text begins with, and the rest. -/
def digits : Text → List Nat × Text
  | [] => ([], [])
  | c :: rest =>
    match Decimal.digitIn? 10 c with
    | some d => (d :: (digits rest).1, (digits rest).2)
    | none => ([], c :: rest)

def fraction (t : Text) : List Nat × Text :=
  match t with
  | '.' :: rest =>
    match digits rest with
    | ([], _) => ([], t)
    | found => found
  | _ => ([], t)

def exponent (t : Text) : Option Int × Text :=
  match t with
  | c :: rest =>
    if c = 'e' ∨ c = 'E' then
      let (negative, rest) : Bool × Text :=
        match rest with
        | '-' :: rest => (true, rest)
        | '+' :: rest => (false, rest)
        | _ => (false, rest)
      match digits rest with
      | ([], _) => (none, t)
      | (ds, rest) =>
        let size : Int := Text.ofDigits ds
        (some (if negative then -size else size), rest)
    else
      (none, t)
  | [] => (none, t)

def number (negative : Bool) (t : Text) : Except Fault (Value × Text) :=
  match digits t with
  | ([], _) => .error .malformed
  | (first :: more, rest) =>
    let (whole, rest) : List Nat × Text :=
      if first = 0 then ([0], t.drop 1) else (first :: more, rest)
    let (places, rest') := fraction rest
    let (power, rest'') := exponent rest'
    if places.isEmpty && power.isNone then
      if Decimal.maxDigits < whole.length then
        .error .numberTooLong
      else
        let size : Int := Text.ofDigits whole
        .ok (.int (if negative then -size else size), rest'')
    else
      .ok (.float (Decimal.ofParts negative whole places (power.getD 0)), rest'')

def words : List (Text × Value) := [
  ("null", .null), ("true", .bool true), ("false", .bool false),
  ("NaN", .float Decimal.notANumber), ("Infinity", .float Decimal.infinity),
  ("-Infinity", .float (-Decimal.infinity))]

def word? (t : Text) : Option (Value × Text) :=
  words.findSome? fun (name, value) => (Text.dropStart? name t).map (value, ·)

/-- The string whose opening quote has been read. -/
def string (t : Text) : Except Fault (Text × Text) :=
  match stringCodes? t with
  | some (codes, rest) => .ok (ofCodes codes, rest)
  | none => .error .malformed

/-! ## Values -/

/-- The elements of a list, up to and including its closing bracket. -/
def elements (read : Text → Except Fault (Value × Text)) :
    (bound : Nat) → Text → Except Fault (List Value × Text)
  | 0, _ => .error .malformed
  | bound + 1, t => do
    let (v, rest) ← read t
    match skip rest with
    | ']' :: rest => return ([v], rest)
    | ',' :: rest =>
      let (vs, rest) ← elements read bound (skip rest)
      return (v :: vs, rest)
    | _ => .error .malformed

def members (read : Text → Except Fault (Value × Text)) :
    (bound : Nat) → Text → Except Fault (List (Value × Value) × Text)
  | 0, _ => .error .malformed
  | bound + 1, t =>
    match t with
    | '"' :: rest => do
      let (key, rest) ← string rest
      match skip rest with
      | ':' :: rest =>
        let (v, rest) ← read (skip rest)
        match skip rest with
        | '\x7d' :: rest => return ([(.str key, v)], rest)
        | ',' :: rest =>
          let (entries, rest) ← members read bound (skip rest)
          return ((.str key, v) :: entries, rest)
        | _ => .error .malformed
      | _ => .error .malformed
    | _ => .error .malformed

def list (read : Text → Except Fault (Value × Text)) (bound : Nat) (t : Text) :
    Except Fault (Value × Text) :=
  match skip t with
  | ']' :: rest => .ok (.list [], rest)
  | t => do
    let (vs, rest) ← elements read bound t
    return (.list vs, rest)

def object (read : Text → Except Fault (Value × Text)) (bound : Nat) (t : Text) :
    Except Fault (Value × Text) :=
  match skip t with
  | '\x7d' :: rest => .ok (.map [], rest)
  | t => do
    let (entries, rest) ← members read bound t
    return (.ofEntries entries, rest)

def value (bound : Nat) (depth : Nat) (t : Text) : Except Fault (Value × Text) :=
  match word? t, t, depth with
  | some found, _, _ => .ok found
  | none, '"' :: rest, _ => do
    let (s, rest) ← string rest
    return (.str s, rest)
  | none, '[' :: _, 0 | none, '\x7b' :: _, 0 => .error .tooDeep
  | none, '[' :: rest, depth + 1 => list (value bound depth) bound rest
  | none, '\x7b' :: rest, depth + 1 => object (value bound depth) bound rest
  | none, '-' :: rest, _ => number true rest
  | none, t, _ => number false t

/-- The depth of nesting that is assumed unless another is given. -/
def usualDepth : Nat := 990

/-- The value that a whole text writes, in which brackets and braces are nested no deeper than
`depth`. -/
def read (t : Text) (depth : Nat := usualDepth) : Except Fault Value := do
  let (v, rest) ← value (t.length + 1) depth (skip t)
  if (skip rest).isEmpty then return v else .error .malformed

end LintReport.Json
