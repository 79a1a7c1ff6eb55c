/-!
# Texts

Every rule of the report counts, cuts and compares whole code points, so a text is the list of its
code points. This file holds the type and the operations that know nothing of character classes:
splitting at a separator, joining, and cutting off a known beginning or end.
-/

namespace LintReport

/-- A text, code point by code point. -/
abbrev Text := List Char

instance : Coe String Text := ⟨String.toList⟩

namespace Text

/-- The pieces of `t` between the occurrences of `sep`. There is one piece more than there are
separators, so the empty text has one empty piece. -/
def split (sep : Char) : Text → List Text
  | [] => [[]]
  | c :: rest =>
    if c = sep then
      [] :: split sep rest
    else
      match split sep rest with
      | [] => [[c]]
      | piece :: pieces => (c :: piece) :: pieces

/-- The pieces of a text between the occurrences of `sep`, which is not empty. Occurrences are found
from the left and do not overlap; `skipped` characters of the present one are still to come. -/
def splitFrom (sep : Text) : (skipped : Nat) → Text → List Text
  | _, [] => [[]]
  | skipped + 1, _ :: rest => splitFrom sep skipped rest
  | 0, c :: rest =>
    if sep.isPrefixOf (c :: rest) then
      [] :: splitFrom sep (sep.length - 1) rest
    else
      match splitFrom sep 0 rest with
      | [] => [[c]]
      | piece :: pieces => (c :: piece) :: pieces

def splitAll (sep t : Text) : List Text :=
  splitFrom sep 0 t

def join (sep : Text) : List Text → Text
  | [] => []
  | [piece] => piece
  | piece :: next :: pieces => piece ++ sep ++ join sep (next :: pieces)

/-- What follows `start` in `t`, if `t` begins with it. -/
def dropStart? : (start t : Text) → Option Text
  | [], t => some t
  | _ :: _, [] => none
  | s :: start, c :: t => if s = c then dropStart? start t else none

def hasInfix (part : Text) : Text → Bool
  | [] => part.isEmpty
  | c :: rest => part.isPrefixOf (c :: rest) || hasInfix part rest

/-- The text up to, and the text from, the first character that satisfies `p`. -/
def breakAt (p : Char → Bool) (t : Text) : Text × Text :=
  (t.takeWhile fun c => !p c, t.dropWhile fun c => !p c)

/-- The text without its longest end of characters that satisfy `p`. -/
def dropEndWhile (p : Char → Bool) : Text → Text
  | [] => []
  | c :: rest =>
    match dropEndWhile p rest with
    | [] => if p c then [] else [c]
    | kept => c :: kept

def inner (t : Text) : Text :=
  (t.drop 1).dropLast

/-- The characters from place `first` on and before place `last`. -/
def slice (first last : Nat) (t : Text) : Text :=
  (t.drop first).take (last - first)

/-- The lines of a text. A text has one line more than it has line breaks. -/
def lines (t : Text) : List Text :=
  split '\n' t

/-- The text in its order by code points: a proper beginning comes before its extensions. -/
def le : Text → Text → Bool
  | [], _ => true
  | _ :: _, [] => false
  | a :: s, b :: t => a.val < b.val || (a = b && le s t)

theorem split_ne_nil (sep : Char) (t : Text) : split sep t ≠ [] := by
  cases t with
  | nil => simp [split]
  | cons c rest =>
    unfold split
    split
    · simp
    · split <;> simp

@[simp] theorem dropStart?_append (start t : Text) : dropStart? start (start ++ t) = some t := by
  induction start with
  | nil => rfl
  | cons c start ih => simpa [dropStart?] using ih

theorem append_of_dropStart? {start t rest : Text} (h : dropStart? start t = some rest) :
    t = start ++ rest := by
  induction start generalizing t with
  | nil => simpa [dropStart?] using h
  | cons s start ih =>
    cases t with
    | nil => simp [dropStart?] at h
    | cons c t =>
      simp only [dropStart?] at h
      split at h
      · next hc => rw [hc, List.cons_append, ← ih h]
      · simp at h

end Text

end LintReport
