import LintReport.Decimal.Integer

/-!
# Dates and times

Settings files may hold dates, times of day, and both together with or without an offset from
universal time. The calendar is the Gregorian one, for the years 1 to 9999.
-/

namespace LintReport.Calendar

structure Date where
  year : Nat
  month : Nat
  day : Nat
  deriving DecidableEq

structure Time where
  hour : Nat
  minute : Nat
  second : Nat
  microsecond : Nat
  deriving DecidableEq

/-- A day, a time of day, or a time on a day. The offset is that from universal time, in minutes. -/
inductive Moment where
  | day (d : Date)
  | time (t : Time)
  | both (d : Date) (t : Time) (offset : Option Int)
  deriving DecidableEq

/-! ## Validity -/

def isLeap (year : Nat) : Bool :=
  year % 4 == 0 && (year % 100 != 0 || year % 400 == 0)

def daysIn (year month : Nat) : Nat :=
  if month = 2 then if isLeap year then 29 else 28
  else if month = 4 ∨ month = 6 ∨ month = 9 ∨ month = 11 then 30
  else 31

def Date.isValid (d : Date) : Bool :=
  decide (1 ≤ d.year ∧ d.year ≤ 9999 ∧ 1 ≤ d.month ∧ d.month ≤ 12 ∧ 1 ≤ d.day ∧
    d.day ≤ daysIn d.year d.month)

def Time.isValid (t : Time) : Bool :=
  decide (t.hour < 24 ∧ t.minute < 60 ∧ t.second < 60 ∧ t.microsecond < 1000000)

/-- Whether there is such a moment. Its offset is less than a day. -/
def Moment.isValid : Moment → Bool
  | day d => d.isValid
  | time t => t.isValid
  | both d t offset =>
    d.isValid && t.isValid && decide ((offset.getD 0).natAbs < 24 * 60)

/-! ## Texts -/

/-- The number with at least `width` digits. -/
def padded (width n : Nat) : Text :=
  let digits := Decimal.natText n
  List.replicate (width - digits.length) '0' ++ digits

def Date.text (d : Date) : Text :=
  padded 4 d.year ++ '-' :: padded 2 d.month ++ '-' :: padded 2 d.day

def Time.text (t : Time) : Text :=
  padded 2 t.hour ++ ':' :: padded 2 t.minute ++ ':' :: padded 2 t.second ++
    if t.microsecond = 0 then [] else '.' :: padded 6 t.microsecond

def offsetText (offset : Int) : Text :=
  (if offset < 0 then '-' else '+') :: padded 2 (offset.natAbs / 60) ++
    ':' :: padded 2 (offset.natAbs % 60)

def applied (name : Text) (arguments : List Text) : Text :=
  name ++ '(' :: Text.join ", " arguments ++ [')']

def Date.parts (d : Date) : List Text :=
  [d.year, d.month, d.day].map Decimal.natText

def Time.parts (t : Time) : List Text :=
  [t.hour, t.minute].map Decimal.natText ++
    if t.microsecond ≠ 0 then [t.second, t.microsecond].map Decimal.natText
    else if t.second ≠ 0 then [Decimal.natText t.second]
    else []

/-- The description of an offset in minutes. A negative one is described by days before and seconds
after. -/
def offsetParts (offset : Int) : Text :=
  if offset = 0 then "tzinfo=datetime.timezone.utc"
  else
    let seconds := Decimal.natText (if offset < 0 then 86400 - offset.natAbs * 60
      else offset.natAbs * 60)
    let span := applied "datetime.timedelta"
      (if offset < 0 then ["days=-1".toList, "seconds=" ++ seconds] else ["seconds=" ++ seconds])
    "tzinfo=" ++ applied "datetime.timezone" [span]

/-- The text of a moment. There is none if the offset is a whole day or more. -/
def Moment.text? : Moment → Option Text
  | day d => some d.text
  | time t => some t.text
  | both d t none => some (d.text ++ ' ' :: t.text)
  | both d t (some offset) =>
    if offset.natAbs < 24 * 60 then some (d.text ++ ' ' :: t.text ++ offsetText offset) else none

def Moment.description : Moment → Text
  | day d => applied "datetime.date" d.parts
  | time t => applied "datetime.time" t.parts
  | both d t offset =>
    applied "datetime.datetime" (d.parts ++ t.parts ++ (offset.map offsetParts).toList)

/-! ## Equality -/

def daysBeforeYear (year : Nat) : Nat :=
  let past := year - 1
  365 * past + past / 4 - past / 100 + past / 400

/-- The number of a day, counted from the beginning of the first year. -/
def Date.number (d : Date) : Nat :=
  daysBeforeYear d.year + ((List.range d.month).drop 1).foldl (fun n m => n + daysIn d.year m) d.day

/-- Whether two moments are the same. Times with offsets are compared as universal time. -/
def Moment.same : Moment → Moment → Bool
  | both d t (some offset), both d' t' (some offset') =>
    let minutes (d : Date) (t : Time) (offset : Int) : Int :=
      ((d.number * 24 + t.hour) * 60 + t.minute : Nat) - offset
    minutes d t offset = minutes d' t' offset' && t.second = t'.second &&
      t.microsecond = t'.microsecond
  | m, m' => m = m'

/-! ## Reading -/

/-- The microseconds of the digits of a fraction, of which the first six count. -/
def microseconds (digits : Text) : Nat :=
  let counted := digits.take 6
  (Decimal.naturalIn? 10 (counted ++ List.replicate (6 - counted.length) '0')).getD 0

def readNumber? (least most : Nat) (t : Text) : Option (Nat × Text) := do
  let digits := (t.take most).takeWhile Decimal.isDigit
  guard (least ≤ digits.length)
  return (← Decimal.naturalIn? 10 digits, t.drop digits.length)

def after? (c : Char) : Text → Option Text
  | first :: rest => if first = c then some rest else none
  | [] => none

def readDate? (least : Nat) (t : Text) : Option (Date × Text) := do
  let (year, t) ← readNumber? 4 4 t
  let (month, t) ← readNumber? least 2 (← after? '-' t)
  let (day, t) ← readNumber? least 2 (← after? '-' t)
  return (⟨year, month, day⟩, t)

def readTime? (least : Nat) (t : Text) : Option (Time × Text) := do
  let (hour, t) ← readNumber? least 2 t
  let (minute, t) ← readNumber? 2 2 (← after? ':' t)
  let (second, t) ← readNumber? 2 2 (← after? ':' t)
  match t with
  | '.' :: t =>
    let digits := t.takeWhile Decimal.isDigit
    return (⟨hour, minute, second, microseconds digits⟩, t.drop digits.length)
  | t => return (⟨hour, minute, second, 0⟩, t)

def readOffsetMinutes? : Text → Option Nat
  | [] => some 0
  | t => do
    let (minutes, rest) ← readNumber? 2 2 (← after? ':' t)
    if rest.isEmpty then some minutes else none

/-- An offset in minutes whose hours have at least `least` digits. -/
def readOffset? (least : Nat) : Text → Option Int
  | [] => none
  | ['Z'] => some 0
  | sign :: t => do
    guard (sign = '+' ∨ sign = '-')
    let (hours, rest) ← readNumber? least 2 t
    let minutes ← readOffsetMinutes? rest
    let offset : Int := hours * 60 + minutes
    return if sign = '-' then -offset else offset

end LintReport.Calendar
