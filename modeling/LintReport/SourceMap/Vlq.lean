import LintReport.Base64.Alphabet
import LintReport.Text.Quoted

/-!
# Variable-length quantities

A sequence of integers is written as base64 letters. A letter carries five bits of a number, lowest
first, and a sixth that says whether more follow. The lowest bit of a number is its sign. There is
no bound on the size of an integer.
-/

namespace LintReport.Vlq

inductive Fault where
  | notADigit (c : Char)
  | truncated (segment : Text)
  deriving DecidableEq

def Fault.message : Fault → Text
  | notADigit c => "Invalid base64 VLQ digit: " ++ Text.quoted [c]
  | truncated segment => "Truncated base64 VLQ segment: " ++ Text.quoted segment

/-! ## Reading -/

def digits : Text → Except Fault (List Nat)
  | [] => .ok []
  | c :: rest =>
    match Base64.digit? c with
    | none => .error (.notADigit c)
    | some d => (digits rest).map (d :: ·)

/-- The numbers whose digits are given. A digit of 32 or more is followed by higher digits of the
same number; the sequence must not end with one. -/
def numbers? : List Nat → Option (List Nat)
  | [] => some []
  | d :: ds =>
    if d < 32 then
      (numbers? ds).map (d :: ·)
    else
      match numbers? ds with
      | some (n :: ns) => some ((d - 32 + 32 * n) :: ns)
      | _ => none

/-- The integer whose sign is the lowest bit. -/
def signed (n : Nat) : Int :=
  if n % 2 = 1 then -((n / 2 : Nat) : Int) else ((n / 2 : Nat) : Int)

/-- The integers that a segment writes. A letter outside the alphabet is reported before a missing
end. -/
def decode (segment : Text) : Except Fault (List Int) :=
  match digits segment with
  | .error fault => .error fault
  | .ok ds =>
    match numbers? ds with
    | none => .error (.truncated segment)
    | some ns => .ok (ns.map signed)

/-! ## Writing -/

def unsigned (v : Int) : Nat :=
  if v < 0 then 2 * v.natAbs + 1 else 2 * v.natAbs

/-- The fewest digits of a number. -/
def numberDigits (n : Nat) : List Nat :=
  if n < 32 then [n] else (n % 32 + 32) :: numberDigits (n / 32)
termination_by n
decreasing_by omega

def encode (vs : List Int) : Text :=
  (vs.flatMap fun v => numberDigits (unsigned v)).map Base64.letter

end LintReport.Vlq
