import LintReport.Text.Digit

/-!
# Control sequences

A control sequence starts with an escape character and an opening bracket, goes on with digits and
semicolons, and ends with a letter. It takes up no room on the terminal. A start-of-text mark may
stand before it and an end-of-text mark after it; they belong to the sequence.
-/

namespace LintReport.Terminal

def escape : Char := '\x1b'

def rendition (code : Nat) : Text :=
  escape :: '[' :: Nat.toDigits 10 code ++ ['m']

/-- Whether the character is a letter of ASCII. -/
def isLetter (c : Char) : Bool :=
  ('a' ≤ c && c ≤ 'z') || ('A' ≤ c && c ≤ 'Z')

/-- Whether the character may stand between the bracket and the letter. -/
def isParameter (c : Char) : Bool :=
  c = ';' || Text.isDigit c

/-- The text without the mark that may follow a control sequence. -/
def dropMark : Text → Text
  | '\x02' :: rest => rest
  | t => t

/-- What follows the parameters and the letter of a control sequence. -/
def afterLetter? (t : Text) : Option Text :=
  match t.dropWhile isParameter with
  | c :: rest => if isLetter c then some (dropMark rest) else none
  | [] => none

def afterEscape? : Text → Option Text
  | '\x1b' :: '[' :: rest => afterLetter? rest
  | _ => none

def afterSequence? : Text → Option Text
  | '\x01' :: rest => afterEscape? rest
  | t => afterEscape? t

theorem dropMark_length_le (t : Text) : (dropMark t).length ≤ t.length := by
  unfold dropMark
  split
  · exact Nat.le_succ _
  · exact Nat.le_refl _

theorem afterLetter?_length_lt {t rest : Text} (h : afterLetter? t = some rest) :
    rest.length < t.length := by
  unfold afterLetter? at h
  split at h
  · next c tail htail =>
    split at h
    · have hmark := dropMark_length_le tail
      have hdrop := (List.dropWhile_sublist (l := t) isParameter).length_le
      rw [htail, List.length_cons] at hdrop
      rw [← Option.some.inj h]
      omega
    · simp at h
  · simp at h

theorem afterEscape?_length_lt {t rest : Text} (h : afterEscape? t = some rest) :
    rest.length < t.length := by
  unfold afterEscape? at h
  split at h
  · have hlt := afterLetter?_length_lt h
    simp only [List.length_cons]
    omega
  · simp at h

/-- A control sequence has characters of its own. -/
theorem afterSequence?_length_lt {t rest : Text} (h : afterSequence? t = some rest) :
    rest.length < t.length := by
  unfold afterSequence? at h
  split at h
  · have hlt := afterEscape?_length_lt h
    simp only [List.length_cons]
    omega
  · exact afterEscape?_length_lt h

/-- The text without its control sequences. -/
def visible (t : Text) : Text :=
  match t with
  | [] => []
  | c :: rest =>
    match _hsequence : afterSequence? (c :: rest) with
    | some after => visible after
    | none => c :: visible rest
termination_by t.length
decreasing_by
  · exact afterSequence?_length_lt _hsequence
  · simp

/-- The room that a text takes up on the terminal. -/
def visibleLength (t : Text) : Nat :=
  (visible t).length

end LintReport.Terminal
