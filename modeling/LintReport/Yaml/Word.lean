import LintReport.Base64.Codec
import LintReport.Calendar
import LintReport.Text.Lowercase
import LintReport.Value.Basic
import LintReport.Yaml.Cursor

/-!
# Words

What a plain scalar means is decided by its form: words for null and for truth values, numbers in
several bases, numbers in base sixty with colons between the digits, and dates. All other scalars
are texts. A tag may ask for a meaning that the form does not have; then numbers may also be written
in forms that do not decide by themselves.
-/

namespace LintReport.Yaml

inductive Kind where
  | null
  | bool
  | int
  | float
  | date
  | text
  | bytes
  | sequence
  | mapping
  | set
  /-- A sequence of mappings of one entry, which are read as pairs. -/
  | pairs
  /-- The key whose value has entries that are merged into the mapping. -/
  | merge
  /-- The key that stands for the plain value of a mapping. -/
  | plainValue
  | unknown
  deriving DecidableEq

def Kind.names : List (Text × Kind) := [
  ("null", null), ("bool", bool), ("int", int), ("float", float), ("timestamp", date),
  ("str", text), ("binary", bytes), ("seq", sequence), ("map", mapping), ("set", set),
  ("omap", pairs), ("pairs", pairs), ("merge", merge), ("value", plainValue)]

def Kind.ofTag (t : Text) : Kind :=
  ((Text.dropStart? "tag:yaml.org,2002:" t).bind fun name => names.lookup name).getD unknown

/-! ## Forms -/

/-- The text in lower case, where only ASCII letters count. -/
def lowered (t : Text) : Text :=
  t.map Char.toLower

/-- Whether the text is a word in lower case, in upper case, or with a capital. -/
def isSpelling (word t : Text) : Bool :=
  t = word || t = word.map Char.toUpper ||
    match word with
    | [] => false
    | c :: rest => t = c.toUpper :: rest

def truthWords : List (Text × Bool) := [
  ("yes", true), ("no", false), ("true", true), ("false", false), ("on", true), ("off", false)]

/-- Whether the character is a digit or an underscore. -/
def isSpacedDigit (c : Char) : Bool :=
  Decimal.isDigit c || c = '_'

def isSpacedNumber : Text → Bool
  | [] => false
  | c :: rest => Decimal.isDigit c && rest.all isSpacedDigit

def unsigned : Text → Text
  | [] => []
  | c :: rest => if c = '+' || c = '-' then rest else c :: rest

/-- Whether the text is a digit of base sixty that is not the first. -/
def isSixtieth : Text → Bool
  | [c] => Decimal.isDigit c
  | [c, d] => '0' ≤ c && c ≤ '5' && Decimal.isDigit d
  | _ => false

def isSexagesimal (starts : Char → Bool) (t : Text) : Bool :=
  match Text.split ':' t with
  | first :: second :: rest =>
    isSpacedNumber first && (first.head?.map starts).getD false && (second :: rest).all isSixtieth
  | _ => false

def isPositiveDigit (c : Char) : Bool :=
  Decimal.isDigit c && c ≠ '0'

def isIntForm (t : Text) : Bool :=
  match unsigned t with
  | ['0'] => true
  | '0' :: c :: rest =>
    if c = 'b' then !rest.isEmpty && rest.all fun d => d = '0' || d = '1' || d = '_'
    else if c = 'x' then
      !rest.isEmpty && rest.all fun d => (Decimal.digitIn? 16 d).isSome || d = '_'
    else (c :: rest).all fun d => (Decimal.digitIn? 8 d).isSome || d = '_'
  | t => (isSpacedNumber t && (t.head?.map isPositiveDigit).getD false) ||
      isSexagesimal isPositiveDigit t

/-- Whether the text is an exponent with a sign, or empty. -/
def isExponentForm : Text → Bool
  | [] => true
  | mark :: sign :: digits =>
    (mark = 'e' || mark = 'E') && (sign = '+' || sign = '-') && !digits.isEmpty &&
      digits.all Decimal.isDigit
  | _ => false

def isFloatForm (t : Text) : Bool :=
  match Text.breakAt (· = '.') t, Text.breakAt (· = '.') (unsigned t) with
  | (before, _ :: after), (whole, _) =>
    let (places, power) := Text.breakAt (fun c => c = 'e' || c = 'E') after
    if whole.isEmpty then
      isSpelling "inf" after || (before.isEmpty &&
        (after = "nan" || after = "NaN" || after = "NAN" ||
          (isSpacedNumber places && isExponentForm power)))
    else
      (isSpacedNumber whole && places.all isSpacedDigit && isExponentForm power) ||
        (isSexagesimal Decimal.isDigit whole && after.all isSpacedDigit)
  | _, _ => false

/-! ## Dates -/

def readInstant? (d : Calendar.Date) (t : Text) : Option Calendar.Moment := do
  let (time, rest) ← Calendar.readTime? 1 t
  match rest, rest.dropWhile isSpace with
  | [], _ => return .both d time none
  | _, offset => return .both d time (some (← Calendar.readOffset? 1 offset))

/-- The moment that a text writes, whether or not there is such a moment. -/
def readMoment? (t : Text) : Option Calendar.Moment := do
  let (d, rest) ← Calendar.readDate? 1 t
  match rest with
  | [] => return .day d
  | c :: after =>
    if c = 'T' || c = 't' then readInstant? d after
    else if isSpace c then readInstant? d (rest.dropWhile isSpace)
    else none

/-- Whether the text has the form of a date. Without a time all numbers of it have their full
length. -/
def isDateForm (t : Text) : Bool :=
  match readMoment? t with
  | some (.both _ _ _) => true
  | some _ => t.length = 10
  | none => false

def checked (m : Calendar.Moment) : Except Fault Value :=
  if m.isValid then .ok (.moment m) else .error .range

/-! ## Meaning -/

/-- The text without the line break that it ends in, unless it is nothing else. -/
def dropLastBreak (t : Text) : Text :=
  if t.getLast? = some '\n' && t.length ≠ 1 then t.dropLast else t

/-- The kind that a plain scalar has by its form. A line break at its end does not count. -/
def Kind.ofWord (t : Text) : Kind :=
  let t := dropLastBreak t
  if truthWords.any fun entry => isSpelling entry.1 t then bool
  else if isFloatForm t then float
  else if isIntForm t then int
  else if t = "<<" then merge
  else if t.isEmpty || t = ['~'] || isSpelling "null" t then null
  else if isDateForm t then date
  else if t = ['='] then plainValue
  else if t = ['!'] || t = ['&'] || t = ['*'] then unknown
  else text

def sexagesimal (digits : List Int) : Int :=
  digits.foldl (fun n d => 60 * n + d) 0

/-- The integer that a text without a sign of its own writes. -/
def readUnsignedInt (t : Text) : Except Fault Int :=
  let found : Option Int :=
    match t with
    | '0' :: 'b' :: digits => Decimal.readIntIn? 2 digits
    | '0' :: 'x' :: digits => Decimal.readIntIn? 16 digits
    | '0' :: _ => Decimal.readIntIn? 8 t
    | _ =>
      if t.contains ':' then ((Text.split ':' t).mapM Decimal.readInt?).map sexagesimal
      else Decimal.readInt? t
  match t, found with
  | [], _ => .error .noDigits
  | _, some n => .ok n
  | _, none => .error .range

def readInt (t : Text) : Except Fault Value := do
  let t := t.filter (· ≠ '_')
  let n ← readUnsignedInt (unsigned t)
  return .int (if t.head? = some '-' then -n else n)

/-- The sum of digits in base sixty, given the last one first, from the one that counts as a power
of sixty. -/
def sexagesimalFloat (sum : Float) : (power : Nat) → (digits : List Float) → Except Fault Float
  | _, [] => .ok sum
  | power, digit :: digits =>
    let unit := Decimal.nearest (Nat.pow 60 power) 0
    match Decimal.Binary64.ofFloat unit with
    | .infinite _ => .error .tooLarge
    | _ => sexagesimalFloat (sum + digit * unit) (power + 1) digits

def readUnsignedFloat (t : Text) : Except Fault Float :=
  if t = ".inf" then .ok Decimal.infinity
  else if t = ".nan" then .ok Decimal.notANumber
  else
    match (Text.split ':' t).mapM Decimal.readFloat? with
    | none => .error .range
    | some [x] => .ok x
    | some digits => sexagesimalFloat 0 0 digits.reverse

/-- The floating-point number that a text writes. Underscores do not count. -/
def readFloat (t : Text) : Except Fault Value := do
  let t := lowered (t.filter (· ≠ '_'))
  if t.isEmpty then throw .noDigits
  let x ← readUnsignedFloat (unsigned t)
  return .float (if t.head? = some '-' then -1 * x else x)

def readBytes (t : Text) : Except Fault Value :=
  match Base64.decode? t with
  | some bs => if t.all fun c => c.toNat < 0x80 then .ok (.bytes bs) else .error .value
  | none => .error .value

def Kind.read (t : Text) : Kind → Except Fault Value
  | null => .ok .null
  | bool =>
    match truthWords.lookup (Text.lower t) with
    | some b => .ok (.bool b)
    | none => .error (.notTruth (Text.lower t))
  | int => readInt t
  | float => readFloat t
  | date =>
    match readMoment? (dropLastBreak t) with
    | some moment => checked moment
    | none => .error .notADate
  | text => .ok (.str t)
  | bytes => readBytes t
  | _ => .error .value

end LintReport.Yaml
