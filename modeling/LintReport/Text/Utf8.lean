import LintReport.Text.Basic

/-!
# UTF-8

Texts as bytes. Reading a byte sequence yields one entry for each character and one for each place
where no character can be read; such a place extends as far as the bytes begin a character. The
strict reading refuses a sequence with such a place, the lenient one puts U+FFFD there.
-/

namespace LintReport.Utf8

def encodeChar (c : Char) : List UInt8 :=
  let n := c.toNat
  if n < 0x80 then
    [UInt8.ofNat n]
  else if n < 0x800 then
    [UInt8.ofNat (0xC0 + n / 0x40), UInt8.ofNat (0x80 + n % 0x40)]
  else if n < 0x10000 then
    [UInt8.ofNat (0xE0 + n / 0x1000), UInt8.ofNat (0x80 + n / 0x40 % 0x40),
      UInt8.ofNat (0x80 + n % 0x40)]
  else
    [UInt8.ofNat (0xF0 + n / 0x40000), UInt8.ofNat (0x80 + n / 0x1000 % 0x40),
      UInt8.ofNat (0x80 + n / 0x40 % 0x40), UInt8.ofNat (0x80 + n % 0x40)]

def encode (t : Text) : List UInt8 :=
  t.flatMap encodeChar

/-- The bits that a byte inside a character carries, if the byte may stand there. -/
def tail? (b : UInt8) : Option Nat :=
  if 0x80 ≤ b.toNat ∧ b.toNat < 0xC0 then some (b.toNat - 0x80) else none

/-- The bits of a second byte. After the first bytes E0, ED, F0 and F4 some second bytes would write
a character in more bytes than it needs, a surrogate, or a number past the last character. -/
def second? (first b : UInt8) : Option Nat :=
  if first.toNat = 0xE0 ∧ b.toNat < 0xA0 then none
  else if first.toNat = 0xED ∧ 0xA0 ≤ b.toNat then none
  else if first.toNat = 0xF0 ∧ b.toNat < 0x90 then none
  else if first.toNat = 0xF4 ∧ 0x90 ≤ b.toNat then none
  else tail? b

/-- The bits of the bytes that follow `first` in a character of `count` more bytes, as far as they
are there: their number if all are, and in any case the bytes that follow. -/
def tails : (count bits : Nat) → List UInt8 → Option Nat × List UInt8
  | 0, bits, rest => (some bits, rest)
  | _ + 1, _, [] => (none, [])
  | count + 1, bits, b :: rest =>
    match tail? b with
    | some more => tails count (bits * 0x40 + more) rest
    | none => (none, b :: rest)

def tailsAfter (first : UInt8) (count bits : Nat) : List UInt8 → Option Nat × List UInt8
  | [] => (none, [])
  | b :: rest =>
    match second? first b with
    | some more => tails count (bits * 0x40 + more) rest
    | none => (none, b :: rest)

/-- The number of the character at the front, if one can be read there, and the bytes that follow.
-/
def front (first : UInt8) (rest : List UInt8) : Option Nat × List UInt8 :=
  let n := first.toNat
  if n < 0x80 then (some n, rest)
  else if n < 0xC2 then (none, rest)
  else if n < 0xE0 then tailsAfter first 0 (n - 0xC0) rest
  else if n < 0xF0 then tailsAfter first 1 (n - 0xE0) rest
  else if n < 0xF5 then tailsAfter first 2 (n - 0xF0) rest
  else (none, rest)

theorem tails_length_le (count bits : Nat) (bytes : List UInt8) :
    (tails count bits bytes).2.length ≤ bytes.length := by
  induction count generalizing bits bytes with
  | zero => simp [tails]
  | succ count ih =>
    cases bytes with
    | nil => simp [tails]
    | cons b rest =>
      unfold tails
      split
      · exact Nat.le_succ_of_le (ih ..)
      · exact Nat.le_refl _

theorem tailsAfter_length_le (first : UInt8) (count bits : Nat) (bytes : List UInt8) :
    (tailsAfter first count bits bytes).2.length ≤ bytes.length := by
  cases bytes with
  | nil => simp [tailsAfter]
  | cons b rest =>
    simp only [tailsAfter]
    split
    · exact Nat.le_succ_of_le (tails_length_le ..)
    · exact Nat.le_refl _

theorem front_length_le (first : UInt8) (rest : List UInt8) :
    (front first rest).2.length ≤ rest.length := by
  simp only [front]
  repeat' split
  all_goals first | exact Nat.le_refl _ | exact tailsAfter_length_le ..

/-- The characters of a byte sequence, with `none` where none can be read. -/
def units (bytes : List UInt8) : List (Option Char) :=
  match bytes with
  | [] => []
  | first :: rest => (front first rest).1.map Char.ofNat :: units (front first rest).2
termination_by bytes.length
decreasing_by exact Nat.lt_succ_of_le (front_length_le first rest)

/-- The text of a byte sequence that is UTF-8 throughout. -/
def decode? (bytes : List UInt8) : Option Text :=
  (units bytes).mapM id

/-- The text of any byte sequence, with U+FFFD where no character can be read. -/
def decodeLossy (bytes : List UInt8) : Text :=
  (units bytes).map (·.getD (Char.ofNat 0xFFFD))

end LintReport.Utf8
