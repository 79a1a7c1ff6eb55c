import LintReport.Proofs.Base64.Codec
import LintReport.Proofs.Text.Lower
import LintReport.Proofs.Text.Trim
import LintReport.Proofs.Text.Utf8
import LintReport.SourceMap.Directive
import LintReport.Url.File

/-!
# Values of directives

A text that is given inline is read back from the value that holds it. The beginning of the value
may be written in capitals, blanks may stand around the payload, and padding at its end may be left
out. A value without slashes is neither a data URL nor a file URL, and so the path of a file.
-/

namespace LintReport

theorem Url.isFileUrl_of_not_mem {t : Text} (h : '/' ∉ t) : isFileUrl t = false := by
  apply Bool.eq_false_iff.mpr
  intro hurl
  have hstarts : fileScheme <+: Text.lower t := List.isPrefixOf_iff_prefix.mp hurl
  have hslash : '/' ∈ fileScheme := by decide
  exact h (Text.mem_of_mem_lower (by decide) (by decide) (hstarts.subset hslash))

namespace Directive

theorem isInline_of_not_mem {value : Text} (h : '/' ∉ value) : isInline value = false := by
  apply Bool.eq_false_iff.mpr
  intro hinline
  have hlower : Text.lower (value.take inlineStart.length) = inlineStart :=
    of_decide_eq_true hinline
  have hslash : '/' ∈ inlineStart := by decide
  rw [← hlower] at hslash
  exact h (List.mem_of_mem_take (Text.mem_of_mem_lower (by decide) (by decide) hslash))

def inlineValue (t : Text) : Text :=
  inlineStart ++ Base64.encode (Utf8.encode t)

theorem inlineValue_ne_nil (t : Text) : inlineValue t ≠ [] := by
  have hstart : inlineStart ≠ [] := by decide
  exact List.append_ne_nil_of_left_ne_nil hstart _

theorem isInline_inlineValue (t : Text) : isInline (inlineValue t) = true := by
  have hlower : Text.lower inlineStart = inlineStart := rfl
  rw [isInline, inlineValue, List.take_left, decide_eq_true_eq]
  exact hlower

theorem toNat_of_mem_inlineStart : ∀ c ∈ inlineStart, 0x21 ≤ c.toNat ∧ c.toNat < 0x7F := by
  have hall : (inlineStart.all fun c => 0x21 ≤ c.toNat ∧ c.toNat < 0x7F) = true := by decide
  intro c hc
  exact of_decide_eq_true (List.all_eq_true.mp hall c hc)

theorem toNat_of_mem_inlineValue {t : Text} {c : Char} (h : c ∈ inlineValue t) :
    0x21 ≤ c.toNat ∧ c.toNat < 0x7F := by
  rcases List.mem_append.mp h with h | h
  · exact toNat_of_mem_inlineStart c h
  · exact Base64.toNat_of_mem_encode _ c h

/-- A payload from which padding was left out is filled up to what it was. -/
theorem padded_of_encode {payload : Text} {bytes : List UInt8} {missing : Nat}
    (h : payload ++ List.replicate missing Base64.pad = Base64.encode bytes) :
    padded payload = Base64.encode bytes := by
  have hcount := Base64.count_pad_encode_le bytes
  have hlength := Base64.length_encode_mod bytes
  rw [← h, List.count_append, List.count_replicate_self] at hcount
  rw [← h, List.length_append, List.length_replicate] at hlength
  rw [padded, ← h, show (4 - payload.length % 4) % 4 = missing by omega]

/-- The text of a value is read from its payload, with or without padding and between any blanks.
Of the beginning of the value only the length counts. -/
theorem inlineText_of_encode {start front payload back t : Text} {missing : Nat}
    (hstart : start.length = inlineStart.length) (hfront : ∀ c ∈ front, Text.isBlank c = true)
    (hback : ∀ c ∈ back, Text.isBlank c = true)
    (hpayload : payload ++ List.replicate missing Base64.pad = Base64.encode (Utf8.encode t)) :
    inlineText (start ++ (front ++ payload ++ back)) = .ok t := by
  have hvisible : ∀ c ∈ payload, 0x21 ≤ c.toNat ∧ c.toNat < 0x7F := by
    intro c hc
    apply Base64.toNat_of_mem_encode (Utf8.encode t)
    rw [← hpayload]
    exact List.mem_append_left _ hc
  have htrim : Text.trim (front ++ payload ++ back) = payload := by
    rw [Text.trim_between_blanks hfront hback]
    exact Text.trim_of_not_blank fun c hc => Text.isBlank_of_visible (hvisible c hc)
  have hascii : (payload.all fun c => c.toNat < 0x80) = true := by
    rw [List.all_eq_true]
    intro c hc
    have := hvisible c hc
    exact decide_eq_true (by omega)
  rw [inlineText, ← hstart, List.drop_left, htrim, if_pos hascii, padded_of_encode hpayload,
    Base64.decode?_encode, Option.bind_some, Utf8.decode?_encode]

theorem inlineText_inlineValue (t : Text) : inlineText (inlineValue t) = .ok t := by
  have htext := @inlineText_of_encode inlineStart [] (Base64.encode (Utf8.encode t)) [] t 0 rfl
    (by simp) (by simp) (by simp)
  rwa [List.nil_append, List.append_nil] at htext

/-! ## Spellings of an inline value -/

/-- The beginning of an inline value in letters of any case. -/
theorem lower_of_map_toLower {start : Text} (h : start.map Char.toLower = inlineStart) :
    Text.lower start = inlineStart := by
  have hascii : ∀ c ∈ inlineStart, c.toNat < 0x80 := fun c hc =>
    Nat.lt_trans (toNat_of_mem_inlineStart c hc).2 (by decide)
  rw [Text.lower_of_ascii (Text.toNat_of_map_toLower h hascii), h]

/-- A text that is written inline is found to be inline and read back, in whatever case the letters
of the beginning are written, with any blanks around the payload, and however much of the padding at
its end is left out. -/
theorem inlineText_of_spelling {start front payload back t : Text} {missing : Nat}
    (hstart : start.map Char.toLower = inlineStart)
    (hfront : ∀ c ∈ front, Text.isBlank c = true) (hback : ∀ c ∈ back, Text.isBlank c = true)
    (hpayload : payload ++ List.replicate missing Base64.pad = Base64.encode (Utf8.encode t)) :
    isInline (start ++ (front ++ payload ++ back)) = true ∧
      inlineText (start ++ (front ++ payload ++ back)) = .ok t := by
  have hlength : start.length = inlineStart.length := by rw [← hstart, List.length_map]
  constructor
  · rw [isInline, ← hlength, List.take_left, decide_eq_true_eq]
    exact lower_of_map_toLower hstart
  · exact inlineText_of_encode hlength hfront hback hpayload

theorem inlineText_of_spelling_capitals :
    Base64.encode (Utf8.encode "é") = "w6k=" ∧
      isInline "DATA:application/JSON;base64,\x0bw6k " = true ∧
      inlineText "DATA:application/JSON;base64,\x0bw6k " = .ok "é" := by
  have hpayload : Base64.encode (Utf8.encode "é") = "w6k=" := by decide
  exact ⟨hpayload, @inlineText_of_spelling "DATA:application/JSON;base64," "\x0b" "w6k" " " "é" 1
    rfl (List.all_eq_true.mp (by decide)) (List.all_eq_true.mp (by decide)) hpayload.symm⟩

end Directive

end LintReport
