import LintReport.Decimal.Integer
import LintReport.Decimal.Nearest
import LintReport.Decimal.Binary64
import LintReport.Calendar
import LintReport.Toml.Basic

/-!
# Dates and times of TOML

A time of day is known by its beginning. A date has its numbers at fixed places, and what stands
between them does not count, except that there is a hyphen after the first character. What stands
after the seconds is a fraction, an offset, or both; if it cannot be read it does not count either.
-/

namespace LintReport.Toml

def numberAt? (first last : Nat) (t : Text) : Option Int :=
  Decimal.readInt? (Text.slice first last t)

def naturalAt? (first last : Nat) (t : Text) : Option Nat :=
  (numberAt? first last t).bind fun n => if 0 ≤ n then some n.toNat else none

/-! ## Times of day -/

def twoDigits? : Text → Option (Nat × Text)
  | a :: b :: rest => (Decimal.naturalIn? 10 [a, b]).map fun n => (n, rest)
  | _ => none

def afterColon? : Text → Option (Nat × Text)
  | ':' :: rest => twoDigits? rest
  | _ => none

/-- The time of day that a text begins with. A fraction of three to six digits is the number of
microseconds. -/
def timePrefix? (t : Text) : Option Calendar.Time := do
  let (hour, t) ← twoDigits? t
  let (minute, t) ← afterColon? t
  let (second, t) ← afterColon? t
  let digits := match t with
    | '.' :: t => (t.take 6).takeWhile Decimal.isDigit
    | _ => []
  let microsecond := if digits.length < 3 then 0 else (Decimal.naturalIn? 10 digits).getD 0
  return ⟨hour, minute, second, microsecond⟩

/-! ## Offsets and fractions -/

/-- The offset in minutes that a text writes: a sign, two characters for hours and two for minutes
after one in between. What is no minus sign is a plus sign. -/
def offset? (t : Text) : Option Int := do
  if t = ['Z'] then return 0
  let hours ← numberAt? 1 3 t
  let minutes ← numberAt? 4 6 t
  let size := hours * 60 + minutes
  return if t.head? = some '-' then -size else size

/-- The microseconds of a fraction. With more than six digits they are computed in floating point
and cut. -/
def microseconds (fraction : Text) : Except Fault (Option Nat) :=
  match Decimal.readInt? fraction with
  | none => .ok none
  | some n =>
    if fraction.length ≤ 6 then .ok (some (n.toNat * Nat.pow 10 (6 - fraction.length)))
    else
      let size := Decimal.nearest n.toNat 0
      match Decimal.Binary64.ofFloat size,
          Decimal.Binary64.ofFloat (size * Float.pow 10 (6 - Float.ofNat fraction.length)) with
      | .infinite _, _ => .error .tooLarge
      | _, .finite _ significand exponent =>
        let (size, unit) := Decimal.Binary64.fraction false significand exponent
        .ok (some (size.toNat / unit))
      | _, _ => .ok (some 0)

/-- The fraction and the offset that stand after the point after the seconds. -/
def fractionAndOffset (t : Text) : Text × Option Text :=
  if t.getLast?.any fun c => c = 'Z' || c = 'z' then (t.dropLast, some ['Z'])
  else
    let sign := if t.contains '+' then '+' else '-'
    match Text.breakAt (· = sign) t with
    | (fraction, []) => (fraction, none)
    | (fraction, offset) => (fraction, some offset)

def afterSeconds (t : Text) : Except Fault (Nat × Option Int) :=
  match t with
  | [] => .ok (0, none)
  | '.' :: t =>
    match fractionAndOffset t with
    | (fraction, none) => do return ((← microseconds fraction).getD 0, none)
    | (fraction, some offset) =>
      match offset? offset with
      | none => .ok (0, none)
      | some minutes => do
        match ← microseconds fraction with
        | some microsecond => return (microsecond, some minutes)
        | none => return (0, none)
  | t => .ok (0, offset? t)

/-! ## Dates -/

def dateAt? (t : Text) : Option Calendar.Date := do
  let date : Calendar.Date :=
    ⟨← naturalAt? 0 4 t, ← naturalAt? 5 7 t, ← naturalAt? 8 10 t⟩
  guard date.isValid
  return date

def timeAt? (microsecond : Nat) (t : Text) : Option Calendar.Time := do
  let time : Calendar.Time :=
    ⟨← naturalAt? 11 13 t, ← naturalAt? 14 16 t, ← naturalAt? 17 19 t, microsecond⟩
  guard time.isValid
  return time

def date? (t : Text) : Except Fault (Option Calendar.Moment) := do
  let (microsecond, offset) ← afterSeconds (t.drop 19)
  if !(t.drop 1).contains '-' then return none
  if t.length = 10 then return (dateAt? t).map .day
  return do return .both (← dateAt? t) (← timeAt? microsecond t) offset

end LintReport.Toml
