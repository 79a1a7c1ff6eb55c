import LintReport.Decimal.Radix
import LintReport.Yaml.Cursor

/-!
# Scalars

A scalar is a text in a YAML text. It is plain, quoted, or a block of lines. Single line breaks are
folded into spaces, except in literal blocks.
-/

namespace LintReport.Yaml

/-- The text of a line break followed by further ones: a single line feed is a space, and the first
of several is dropped. -/
def folded (first : Char) (more : Text) : Text :=
  if first ≠ '\n' then first :: more
  else if more.isEmpty then [' '] else more

/-! ## Plain scalars -/

/-- Whether the character separates the items of a bracketed collection. -/
def isFlowIndicator (c : Char) : Bool :=
  ",[]\x7b\x7d".toList.contains c

def plainWord (inFlow : Bool) : Text → Text
  | [] => []
  | c :: rest =>
    let startsValue := c = ':' &&
      (endsWord rest.head? || (inFlow && (rest.head?.map isFlowIndicator).getD false))
    if isBreak c || isSpace c || startsValue || (inFlow && (c = '?' || isFlowIndicator c)) then []
    else c :: plainWord inFlow rest

/-- The line breaks that come next, with spaces between them, and the place after them. Nothing is
found before a mark of a document. -/
def plainBreaks : (fuel : Nat) → Cursor → Option (Text × Cursor)
  | 0, c => some ([], c)
  | fuel + 1, c =>
    if c.isAtSeparator then none
    else
      let c := c.skipSpaces
      match c.lineBreak? with
      | none => some ([], c)
      | some (first, c) => (plainBreaks fuel c).map fun (more, c) => (first :: more, c)

/-- What stands for the blanks between two words of a plain scalar, whether there was a line break,
and the place after the blanks. It is empty where the scalar has to end. -/
def plainGap (c : Cursor) : Text × Bool × Cursor :=
  let (spaces, c) := c.span (· = ' ')
  match c.lineBreak? with
  | none => (spaces, false, c)
  | some (first, c) =>
    match plainBreaks (c.rest.length + 1) c with
    | none => ([], true, c)
    | some (more, c) => (folded first more, true, c)

/-- The rest of a plain scalar, whether there are line breaks after its last word, and the place
after it. `broken` says whether there was a line break before, and `indent` is the column that lines
of a block have to be beyond. -/
def plain (indent : Int) (inFlow : Bool) :
    (fuel : Nat) → (broken : Bool) → Cursor → Text × Bool × Cursor
  | 0, broken, c => ([], broken, c)
  | fuel + 1, broken, c =>
    match plainWord inFlow c.rest with
    | [] => ([], broken, c)
    | word =>
      let (gap, broken, c) := plainGap (c.advance word.length)
      if gap.isEmpty || c.peek 0 = some '#' || (!inFlow && decide ((c.column : Int) ≤ indent)) then
        (word, broken, c)
      else
        match plain indent inFlow fuel broken c with
        | ([], broken, c) => (word, broken, c)
        | (more, broken, c) => (word ++ gap ++ more, broken, c)

/-! ## Quoted scalars -/

def escape? (c : Char) : Option Char :=
  ([('0', 0), ('a', 7), ('b', 8), ('t', 9), ('\t', 9), ('n', 10), ('v', 11), ('f', 12), ('r', 13),
    ('e', 27), (' ', 32), ('"', 34), ('\\', 92), ('/', 47), ('N', 0x85), ('_', 0xA0), ('L', 0x2028),
    ('P', 0x2029)].lookup c).map Char.ofNat

def codeLength? (c : Char) : Option Nat :=
  [('x', 2), ('u', 4), ('U', 8)].lookup c

/-- The line breaks at the beginning of the next lines, with the spaces of these lines. No mark of a
document may come. -/
def quotedBreaks : (fuel : Nat) → Cursor → Except Fault (Text × Cursor)
  | 0, c => .ok ([], c)
  | fuel + 1, c => do
    if c.isAtSeparator then throw .token
    let c := (c.span isSpace).2
    match c.lineBreak? with
    | none => return ([], c)
    | some (first, c) =>
      let (more, c) ← quotedBreaks fuel c
      return (first :: more, c)

def codePoint (n : Nat) (rest : Text) : Except Fault Char :=
  let digits := rest.take n
  match digits.mapM (Decimal.digitIn? 16) with
  | none => .error .token
  | some values =>
    let code := Decimal.ofDigitsIn 16 values
    if digits.length < n then .error .token
    else if code < 0x110000 then .ok (Char.ofNat code)
    else if code < 0x80000000 then .error .range
    else .error .tooLarge

/-- The escape whose backslash is next. -/
def escaped (c : Cursor) : Except Fault (Text × Cursor) :=
  match c.rest with
  | '\\' :: letter :: rest =>
    match escape? letter, codeLength? letter with
    | some found, _ => .ok ([found], c.advance 2)
    | none, some n => (codePoint n rest).map fun found => ([found], c.advance (2 + n))
    | none, none =>
      if isBreak letter then quotedBreaks (rest.length + 1) (c.advance 2) else .error .token
  | _ => .error .token

/-- The blanks that come next in a quoted scalar: spaces are kept unless a line ends after them. -/
def quotedGap (c : Cursor) : Except Fault (Text × Cursor) := do
  let (spaces, c) := c.span isSpace
  match c.lineBreak? with
  | some (first, c) =>
    let (more, c) ← quotedBreaks (c.rest.length + 1) c
    return (folded first more, c)
  | none => if c.rest.isEmpty then throw .token else return (spaces, c)

/-- The text up to the closing quote, and the place after the quote. Two single quotes within single
quotes are one; escapes are read within double quotes. -/
def quoted (quote : Char) : (fuel : Nat) → Cursor → Except Fault (Text × Cursor)
  | 0, _ => .error .token
  | fuel + 1, c =>
    match c.rest with
    | [] => .error .token
    | first :: rest => do
      if first = quote ∧ quote ≠ '"' ∧ rest.head? = some quote then
        let (more, c) ← quoted quote fuel (c.advance 2)
        return (quote :: more, c)
      if first = quote then
        return ([], c.next)
      let (piece, c) ←
        if isSpace first || isBreak first then quotedGap c
        else if first = '\\' ∧ quote = '"' then escaped c
        else .ok ([first], c.next)
      let (more, c) ← quoted quote fuel c
      return (piece ++ more, c)

/-! ## Blocks -/

/-- What is kept of the line breaks at the end of a block. -/
inductive Chomping where
  | strip
  | clip
  | keep
  deriving DecidableEq

def increment? (c : Cursor) : Except Fault (Option Nat × Cursor) :=
  match (c.peek 0).bind (Decimal.digitIn? 10) with
  | none => .ok (none, c)
  | some 0 => .error .token
  | some n => .ok (some n, c.next)

def chomping? (c : Cursor) : Option Chomping × Cursor :=
  match c.peek 0 with
  | some '+' => (some .keep, c.next)
  | some '-' => (some .strip, c.next)
  | _ => (none, c)

def blockHead (c : Cursor) : Except Fault (Chomping × Option Nat × Cursor) := do
  let (chomping, c) := chomping? c
  let (increment, c) ← increment? c
  let (chomping, c) : Option Chomping × Cursor :=
    match chomping, increment with
    | none, some _ => chomping? c
    | _, _ => (chomping, c)
  if !endsLine (c.peek 0) && c.peek 0 ≠ some ' ' then throw .token
  let c := c.skipSpaces.skipComment
  if !endsLine (c.peek 0) then throw .token
  return (chomping.getD .clip, increment, c.next)

/-- The line breaks before the first line of a block that is not empty, the greatest indentation of
the lines up to there, and the place after the breaks. -/
def blockStart : (fuel : Nat) → (greatest : Nat) → Cursor → Text × Nat × Cursor
  | 0, greatest, c => ([], greatest, c)
  | fuel + 1, greatest, c =>
    let c := c.skipSpaces
    let greatest := max greatest c.column
    match c.lineBreak? with
    | none => ([], greatest, c)
    | some (first, c) =>
      let (more, greatest, c) := blockStart fuel greatest c
      (first :: more, greatest, c)

/-- The place after spaces, of which none is beyond the indentation of the block. -/
def skipIndent (indent : Nat) (c : Cursor) : Cursor :=
  c.advance (min (indent - c.column) (c.rest.takeWhile (· = ' ')).length)

/-- The line breaks of empty lines in a block, and the place after them. -/
def blockBreaks (indent : Nat) : (fuel : Nat) → Cursor → Text × Cursor
  | 0, c => ([], c)
  | fuel + 1, c =>
    let c := skipIndent indent c
    match c.lineBreak? with
    | none => ([], c)
    | some (first, c) =>
      let (more, c) := blockBreaks indent fuel c
      (first :: more, c)

/-- The lines of a block after the line breaks in `breaks`. With each text comes the line break
after its last line and those of the empty lines at the end. -/
def blockLines (isFolded : Bool) (indent : Nat) :
    (fuel : Nat) → (breaks : Text) → Cursor → Text × Text × Text × Cursor
  | 0, breaks, c => ([], [], breaks, c)
  | fuel + 1, breaks, c =>
    if c.column ≠ indent ∨ c.rest.isEmpty then ([], [], breaks, c)
    else
      let startsBlank (c : Cursor) : Bool := ((c.peek 0).map isSpace).getD false
      let indented := startsBlank c
      let (line, c) := c.span fun x => !isBreak x
      let (ending, c) : Text × Cursor :=
        match c.lineBreak? with
        | some (found, c) => ([found], c)
        | none => ([], c)
      let (next, c) := blockBreaks indent (c.rest.length + 1) c
      if c.column ≠ indent ∨ c.rest.isEmpty then (breaks ++ line, ending, next, c)
      else
        let joint : Text :=
          if isFolded && ending == ['\n'] && !indented && !startsBlank c then
            if next.isEmpty then [' '] else []
          else ending
        let (more, ending, last, c) := blockLines isFolded indent fuel next c
        (breaks ++ line ++ joint ++ more, ending, last, c)

def block (isFolded : Bool) (indent : Int) (c : Cursor) : Except Fault (Text × Cursor) := do
  let (chomping, increment, c) ← blockHead c
  let least := (max (indent + 1) 1).toNat
  let (breaks, column, c) : Text × Nat × Cursor :=
    match increment with
    | some n =>
      let column := least + n - 1
      let (breaks, c) := blockBreaks column (c.rest.length + 1) c
      (breaks, column, c)
    | none =>
      let (breaks, greatest, c) := blockStart (c.rest.length + 1) 0 c
      (breaks, max least greatest, c)
  let (text, ending, last, c) := blockLines isFolded column (c.rest.length + 1) breaks c
  let kept : Text :=
    match chomping with
    | .strip => []
    | .clip => ending
    | .keep => ending ++ last
  return (text ++ kept, c)

end LintReport.Yaml
