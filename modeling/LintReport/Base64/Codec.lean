import LintReport.Base64.Alphabet

/-!
# Bytes in base64

Three bytes are written as four letters, and a last group of one or two bytes is filled up with
padding. The reader is lenient: it passes over every character outside the alphabet, and padding
ends the text only where it completes a group; elsewhere it is passed over as well.
-/

namespace LintReport.Base64

def pad : Char := '='

def encode : List UInt8 → Text
  | a :: b :: c :: rest =>
    letter (a.toNat / 4) :: letter (a.toNat % 4 * 16 + b.toNat / 16) ::
      letter (b.toNat % 16 * 4 + c.toNat / 64) :: letter (c.toNat % 64) :: encode rest
  | [a, b] =>
    [letter (a.toNat / 4), letter (a.toNat % 4 * 16 + b.toNat / 16), letter (b.toNat % 16 * 4), pad]
  | [a] => [letter (a.toNat / 4), letter (a.toNat % 4 * 16), pad, pad]
  | [] => []

/-- How far a group of four letters has been read: the number of letters so far, and the bits of the
last of them that belong to a byte still to come. -/
inductive Group where
  | empty
  | one (bits : Nat)
  | two (bits : Nat)
  | three (bits : Nat)
  deriving DecidableEq

def Group.size : Group → Nat
  | empty => 0
  | one _ => 1
  | two _ => 2
  | three _ => 3

/-- The byte that one more letter completes, if it does, and the group after it. -/
def Group.push (digit : Nat) : Group → List UInt8 × Group
  | empty => ([], one digit)
  | one bits => ([UInt8.ofNat (bits * 4 + digit / 16)], two (digit % 16))
  | two bits => ([UInt8.ofNat (bits * 16 + digit / 4)], three (digit % 4))
  | three bits => ([UInt8.ofNat (bits * 64 + digit)], empty)

/-- The bytes of a text from the middle of a group, after `pads` paddings since its last letter. -/
def decodeFrom (group : Group) (pads : Nat) : Text → Option (List UInt8)
  | [] => if group = .empty then some [] else none
  | c :: rest =>
    if c = pad then
      if group.size < 2 then decodeFrom group pads rest
      else if 4 ≤ group.size + (pads + 1) then some []
      else decodeFrom group (pads + 1) rest
    else
      match digit? c with
      | none => decodeFrom group pads rest
      | some digit => (decodeFrom (group.push digit).2 0 rest).map ((group.push digit).1 ++ ·)

/-- The bytes that a text writes. A text that ends inside a group writes none. -/
def decode? (t : Text) : Option (List UInt8) :=
  decodeFrom .empty 0 t

end LintReport.Base64
