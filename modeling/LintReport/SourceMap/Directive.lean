import LintReport.Base64.Codec
import LintReport.Text.Blank
import LintReport.Text.Lowercase
import LintReport.Text.Utf8

/-!
# Directives

A generated file names its source map in a comment that reads `//# sourceMappingURL=` or, in an
older form, has an at sign for the number sign. The value is the rest of the line without the blanks
that it ends in. Of several directives the last counts, also if it has no value. A map may be given
inline, as a data URL that holds its text in base64.
-/

namespace LintReport.Directive

/-- The name that stands between the marker and the value. -/
def keyword : Text := "sourceMappingURL="

/-- What follows the keyword, if a directive starts at the front of the text. Blanks between marker
and keyword may include line breaks. -/
def body? : Text → Option Text
  | '/' :: '/' :: marker :: rest =>
    if marker = '#' ∨ marker = '@' then Text.dropStart? keyword (Text.trimStart rest) else none
  | _ => none

/-- Cutting blanks leaves no more than there was. -/
theorem trimStart_length_le (t : Text) : (Text.trimStart t).length ≤ t.length :=
  (List.dropWhile_sublist _).length_le

/-- A directive has a marker and a keyword, so its body is shorter than the text. -/
theorem body?_length_lt {t rest : Text} (h : body? t = some rest) : rest.length < t.length := by
  unfold body? at h
  split at h
  · next marker tail =>
    split at h
    · have happ := congrArg List.length (Text.append_of_dropStart? h)
      have hle := trimStart_length_le tail
      simp only [List.length_append] at happ
      simp only [List.length_cons]
      omega
    · simp at h
  · simp at h

/-- The values of all directives in a text, in their order. Within the value of a directive no other
one starts. -/
def values (t : Text) : List Text :=
  match t with
  | [] => []
  | c :: rest =>
    match _hbody : body? (c :: rest) with
    | some body =>
      Text.trimEnd (body.takeWhile (· ≠ '\n')) :: values (body.dropWhile (· ≠ '\n'))
    | none => values rest
termination_by t.length
decreasing_by
  · have hlt := body?_length_lt _hbody
    have hdrop := (List.dropWhile_sublist (l := body) (· ≠ '\n')).length_le
    omega
  · simp

/-- The value of the last directive of a text, unless there is none or it is empty. -/
def find? (t : Text) : Option Text :=
  match (values t).getLast? with
  | none => none
  | some [] => none
  | some value => some value

/-! ## Inline maps -/

/-- How the data URL of an inline map begins, in lower case. -/
def inlineStart : Text := "data:application/json;base64,"

/-- Whether a value is the data URL of an inline map. The case of letters does not matter. -/
def isInline (value : Text) : Bool :=
  Text.lower (value.take inlineStart.length) = inlineStart

inductive InlineFault where
  | notAscii
  | corrupt
  deriving DecidableEq

/-- The payload filled up with padding to a multiple of four characters. -/
def padded (payload : Text) : Text :=
  payload ++ List.replicate ((4 - payload.length % 4) % 4) Base64.pad

/-- The text that a data URL holds. Only the length of its beginning counts. -/
def inlineText (url : Text) : Except InlineFault Text :=
  let payload := Text.trim (url.drop inlineStart.length)
  if payload.all fun c => c.toNat < 0x80 then
    match (Base64.decode? (padded payload)).bind Utf8.decode? with
    | some t => .ok t
    | none => .error .corrupt
  else .error .notAscii

end LintReport.Directive
