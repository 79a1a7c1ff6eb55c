import LintReport.Proofs.Text.Lower
import LintReport.Proofs.Text.Utf8
import LintReport.Url.File
import Mathlib.Data.List.TakeWhile

/-!
# Spellings of a path in a file URL

A path is written into a file URL as the bytes of its UTF-8, each as a percent sign with two
hexadecimal digits or, if it is a character that may stand in a path, as itself. Every way to write a
path is read back as the path if only its first slash is written as itself. If it is not, it belongs
to the host, and what is read is the end of the path from the first slash that is written as itself.
-/

namespace LintReport.Url

/-! ## Spellings -/

/-- The signs that may stand for themselves in the path of a URL. -/
def pathSigns : Text := "/-._~!$&'()*+,;=:@"

def isPathChar (c : Char) : Bool :=
  c.isAlphanum || pathSigns.contains c

def smallDigits : Text := "0123456789abcdef"

def capitalDigits : Text := "0123456789ABCDEF"

/-- The character is the hexadecimal digit of a number, with a small letter or a capital. -/
def IsHexDigitOf (n : Nat) (c : Char) : Prop :=
  smallDigits[n]? = some c ∨ capitalDigits[n]? = some c

instance (n : Nat) (c : Char) : Decidable (IsHexDigitOf n c) :=
  inferInstanceAs (Decidable (_ ∨ _))

/-- The text writes the bytes in the path of a URL. -/
inductive Spells : List UInt8 → Text → Prop where
  | nil : Spells [] []
  | itself {c : Char} {bytes : List UInt8} {t : Text} (hc : isPathChar c = true) (h : Spells bytes t) :
      Spells (UInt8.ofNat c.toNat :: bytes) (c :: t)
  | percent {b : UInt8} {high low : Char} {bytes : List UInt8} {t : Text}
      (hhigh : IsHexDigitOf (b.toNat / 16) high) (hlow : IsHexDigitOf (b.toNat % 16) low)
      (h : Spells bytes t) : Spells (b :: bytes) ('%' :: high :: low :: t)

theorem isHexDigitOf_spec {n : Nat} {c : Char} (h : IsHexDigitOf n c) :
    Decimal.digitIn? 16 c = some n ∧ isPathChar c = true ∧ c ≠ '/' := by
  have all : ∀ n < 16, [smallDigits.getD n '/', capitalDigits.getD n '/'].all fun c =>
      decide (Decimal.digitIn? 16 c = some n ∧ isPathChar c = true ∧ c ≠ '/') := by decide
  have hn : n < 16 := by
    rcases h with h | h <;> exact (List.getElem?_eq_some_iff.mp h).1
  refine of_decide_eq_true (List.all_eq_true.mp (all n hn) c ?_)
  rw [List.getD_eq_getElem?_getD, List.getD_eq_getElem?_getD]
  rcases h with h | h <;> simp [h]

def isSpelling (c : Char) : Bool :=
  c = '%' || isPathChar c

theorem isSpelling_of_isPathChar {c : Char} (h : isPathChar c = true) : isSpelling c = true := by
  rw [isSpelling, h, Bool.or_true]

theorem Spells.isSpelling {bytes : List UInt8} {t : Text} (h : Spells bytes t) :
    ∀ c ∈ t, isSpelling c = true := by
  induction h with
  | nil => exact nofun
  | itself hc _ ih => exact List.forall_mem_cons.mpr ⟨isSpelling_of_isPathChar hc, ih⟩
  | percent hhigh hlow _ ih =>
      obtain ⟨-, hhigh, -⟩ := isHexDigitOf_spec hhigh
      obtain ⟨-, hlow, -⟩ := isHexDigitOf_spec hlow
      simp only [List.forall_mem_cons]
      exact ⟨rfl, isSpelling_of_isPathChar hhigh, isSpelling_of_isPathChar hlow, ih⟩

theorem toNat_of_isSpelling {c : Char} (h : isSpelling c = true) : c.toNat < 0x80 := by
  have hsigns : (pathSigns.all fun d => decide (d.toNat < 0x80)) = true := by decide
  simp only [isSpelling, isPathChar, Bool.or_eq_true, decide_eq_true_eq] at h
  rcases h with rfl | h | h
  · decide
  · have hends : 'Z'.toNat = 90 ∧ 'z'.toNat = 122 ∧ '9'.toNat = 57 := ⟨rfl, rfl, rfl⟩
    have hranges : (decide (c.val ≥ 'A'.val ∧ c.val ≤ 'Z'.val) ||
        (decide (c.val ≥ 'a'.val) && decide (c.val ≤ 'z'.val)) ||
          (decide (c.val ≥ '0'.val) && decide (c.val ≤ '9'.val))) = true := h
    simp only [Bool.or_eq_true, Bool.and_eq_true, decide_eq_true_eq, UInt32.le_iff_toNat_le,
      Char.toNat_val] at hranges
    omega
  · exact of_decide_eq_true (List.all_eq_true.mp hsigns c (List.contains_iff_mem.mp h))

/-! ## Percent encoding -/

theorem percentBytes_cons_of_ne {c : Char} (h : c ≠ '%') (t : Text) :
    percentBytes (c :: t) = UInt8.ofNat c.toNat :: percentBytes t := by
  rw [percentBytes]
  rintro _ _ _ rfl
  exact absurd rfl h

theorem Spells.percentBytes_eq {bytes : List UInt8} {t : Text} (h : Spells bytes t) :
    percentBytes t = bytes := by
  induction h with
  | nil => rfl
  | itself hc _ ih =>
      rw [percentBytes_cons_of_ne, ih]
      rintro rfl
      exact absurd hc (by decide)
  | @percent b high low bytes t hhigh hlow _ ih =>
      rw [percentBytes, (isHexDigitOf_spec hhigh).1, (isHexDigitOf_spec hlow).1, ih]
      dsimp only
      rw [Nat.div_add_mod', UInt8.ofNat_toNat]

theorem percentDecode_of_ascii {t : Text} (h : ∀ c ∈ t, isAscii c = true) :
    percentDecode t = Utf8.decodeLossy (percentBytes t) := by
  have hafter : ∀ run, decodeAfter run t = Utf8.decodeLossy (percentBytes (run.reverse ++ t)) := by
    induction t with
    | nil => simp [decodeAfter]
    | cons c t ih =>
        intro run
        obtain ⟨hc, ht⟩ := List.forall_mem_cons.mp h
        rw [decodeAfter, if_pos hc, ih ht]
        simp
  exact hafter []

/-! ## Host and path -/

/-- Whether the host of a file URL ends before the character. -/
def endsHost (c : Char) : Bool :=
  c = '/' || c = '?' || c = '#'

theorem isPassedOver_eq_false {p : Char → Bool}
    (hp : p '\t' = false ∧ p '\r' = false ∧ p '\n' = false) {c : Char} (h : p c = true) :
    isPassedOver c = false := by
  cases hover : isPassedOver c with
  | false => rfl
  | true =>
      simp only [isPassedOver, Bool.or_eq_true, decide_eq_true_eq] at hover
      rcases hover with (rfl | rfl) | rfl <;> simp_all

/-- Of the characters that end a host, only the slash may stand in a spelling. -/
theorem endsHost_of_isSpelling {c : Char} (h : isSpelling c = true) (hslash : c ≠ '/') :
    endsHost c = false := by
  have hquery : c ≠ '?' := by
    rintro rfl
    exact absurd h (by decide)
  have hfragment : c ≠ '#' := by
    rintro rfl
    exact absurd h (by decide)
  simp [endsHost, hslash, hquery, hfragment]

theorem hostAndPath_of_isSpelling {t : Text} (h : ∀ c ∈ t, isSpelling c = true) :
    hostAndPath t = (t.takeWhile (!endsHost ·), t.dropWhile (!endsHost ·)) := by
  have hall : ∀ c ∈ t.dropWhile (!endsHost ·), (!(c = '?' || c = '#')) = true := by
    intro c hc
    have hends : c ≠ '/' → endsHost c = false :=
      endsHost_of_isSpelling (h c ((List.dropWhile_suffix _).mem hc))
    by_cases hslash : c = '/'
    · rw [hslash]
      rfl
    · simpa [endsHost, hslash] using hends hslash
  exact congrArg (Prod.mk _) (List.takeWhile_eq_self_iff.mpr hall)

/-- The path in a spelling begins with its first slash. -/
theorem dropWhile_endsHost {t : Text} (h : ∀ c ∈ t, isSpelling c = true) :
    t.dropWhile (!endsHost ·) = t.dropWhile (· ≠ '/') := by
  induction t with
  | nil => rfl
  | cons c t ih =>
      obtain ⟨hc, ht⟩ := List.forall_mem_cons.mp h
      by_cases hslash : c = '/'
      · subst hslash
        rfl
      · rw [List.dropWhile_cons_of_pos (by simp [endsHost_of_isSpelling hc hslash]),
          List.dropWhile_cons_of_pos (by simpa using hslash), ih ht]

theorem isHost_of_isSpelling {host : Text} (h : ∀ c ∈ host, isSpelling c = true) :
    isHost host = true := by
  have hopen : '[' ∉ host := fun hmem => absurd (h _ hmem) (by decide)
  have hclose : ']' ∉ host := fun hmem => absurd (h _ hmem) (by decide)
  have hdisguises : ∀ n ∈ disguises, 0x80 ≤ n := by decide
  have hnone : ∀ c ∈ host, c.toNat ∉ disguises := by
    intro c hc hmem
    have hle := hdisguises _ hmem
    have hlt := toNat_of_isSpelling (h c hc)
    omega
  simpa [isHost, bracketsFit, hopen, hclose] using hnone

/-- What stands before the first slash is cut off between two bytes, and what is left begins with
ASCII. Nothing is cut off only if a slash stands in front. -/
theorem Spells.dropWhile {bytes : List UInt8} {t : Text} (h : Spells bytes t) :
    ∃ front back, bytes = front ++ back ∧ Spells back (t.dropWhile (· ≠ '/')) ∧
      (∀ b, back.head? = some b → b.toNat < 0x80) ∧
      (front = [] ↔ t = [] ∨ t.head? = some '/') := by
  induction h with
  | nil => exact ⟨[], [], rfl, .nil, nofun, by simp⟩
  | @itself c bytes t hc h ih =>
      by_cases hslash : c = '/'
      · subst hslash
        refine ⟨[], _, rfl, .itself hc h, ?_, by simp⟩
        intro b hb
        obtain rfl := Option.some.inj hb
        decide
      · obtain ⟨front, back, rfl, hback, hhead, -⟩ := ih
        refine ⟨_ :: front, back, rfl, ?_, hhead, by simp [hslash]⟩
        rwa [List.dropWhile_cons_of_pos (by simpa using hslash)]
  | @percent b high low bytes t hhigh hlow h ih =>
      obtain ⟨front, back, rfl, hback, hhead, -⟩ := ih
      refine ⟨b :: front, back, rfl, ?_, hhead, by simp⟩
      obtain ⟨-, -, hhigh⟩ := isHexDigitOf_spec hhigh
      obtain ⟨-, -, hlow⟩ := isHexDigitOf_spec hlow
      rwa [List.dropWhile_cons_of_pos (by decide),
        List.dropWhile_cons_of_pos (by simpa using hhigh),
        List.dropWhile_cons_of_pos (by simpa using hlow)]

/-! ## The path of a URL -/

theorem isFileUrl_of_scheme {scheme t : Text} (hscheme : scheme.map Char.toLower = fileScheme)
    (ht : ∀ c ∈ t, isSpelling c = true) : isFileUrl (scheme ++ t) = true := by
  have hsmall : (fileScheme.all fun d => decide (d.toNat < 0x80)) = true := by decide
  have hascii : ∀ c ∈ scheme, c.toNat < 0x80 := by
    apply Text.toNat_of_map_toLower hscheme
    intro c hc
    exact of_decide_eq_true (List.all_eq_true.mp hsmall c hc)
  have hall : ∀ c ∈ scheme ++ t, c.toNat < 0x80 := by
    intro c hc
    rcases List.mem_append.mp hc with hc | hc
    · exact hascii c hc
    · exact toNat_of_isSpelling (ht c hc)
  rw [isFileUrl, Text.lower_of_ascii hall, List.map_append, hscheme, List.isPrefixOf_iff_prefix]
  exact List.prefix_append ..

theorem toPath_of_isSpelling {scheme t : Text} (hscheme : scheme.map Char.toLower = fileScheme)
    (ht : ∀ c ∈ t, isSpelling c = true) :
    toPath (scheme ++ t) = .ok (percentDecode (t.dropWhile (· ≠ '/'))) := by
  have hkept : (scheme ++ t).filter (fun c => !isPassedOver c) = scheme ++ t := by
    apply List.filter_eq_self.mpr
    intro c hc
    rw [Bool.not_eq_true']
    rcases List.mem_append.mp hc with hc | hc
    · have hfile : fileScheme.contains c.toLower = true :=
        List.contains_iff_mem.mpr (hscheme ▸ List.mem_map_of_mem hc)
      exact isPassedOver_eq_false (p := fun c => fileScheme.contains c.toLower) (by decide) hfile
    · exact isPassedOver_eq_false (by decide) (ht c hc)
  have hlength : fileScheme.length = scheme.length := by rw [← hscheme, List.length_map]
  have hhost : isHost (t.takeWhile (!endsHost ·)) = true := by
    apply isHost_of_isSpelling
    intro c hc
    exact ht c ((List.takeWhile_prefix _).mem hc)
  rw [toPath, if_pos (isFileUrl_of_scheme hscheme ht), hkept, hlength, List.drop_left,
    hostAndPath_of_isSpelling ht, dropWhile_endsHost ht]
  exact if_pos hhost

/-- However a path is spelled, a file URL names the end of it that is spelled from the first slash
on that is written as itself. That is all of the path if and only if this is the slash in front. -/
theorem toPath_spelling {scheme p t : Text} (hscheme : scheme.map Char.toLower = fileScheme)
    (hp : p.head? = some '/') (h : Spells (Utf8.encode p) t) :
    ∃ q, toPath (scheme ++ t) = .ok q ∧ q <:+ p ∧
      Spells (Utf8.encode q) (t.dropWhile (· ≠ '/')) ∧ (q = p ↔ t.head? = some '/') := by
  obtain ⟨front, back, hbytes, hback, hhead, hfront⟩ := h.dropWhile
  obtain ⟨q, hq, rfl⟩ := Utf8.exists_suffix_of_encode hbytes hhead
  refine ⟨q, ?_, hq, hback, ?_⟩
  · have hascii : ∀ c ∈ t.dropWhile (· ≠ '/'), isAscii c = true := by
      intro c hc
      exact decide_eq_true (toNat_of_isSpelling (hback.isSpelling c hc))
    rw [toPath_of_isSpelling hscheme h.isSpelling, percentDecode_of_ascii hascii,
      hback.percentBytes_eq, Utf8.decodeLossy_encode]
  · have hne : t ≠ [] := by
      rintro rfl
      obtain rfl : p = [] := Utf8.encode_injective h.percentBytes_eq.symm
      cases hp
    rw [or_iff_right hne] at hfront
    rw [← hfront]
    constructor
    · rintro rfl
      exact List.self_eq_append_left.mp hbytes
    · rintro rfl
      exact Utf8.encode_injective hbytes.symm

theorem toPath_spelling_mixed :
    ("FiLe://".toList.map Char.toLower = fileScheme ∧ "/é b;/".toList.head? = some '/' ∧
      Spells (Utf8.encode "/é b;/") "/%c3%A9%20b;%2F") ∧
      toPath "FiLe:///%c3%A9%20b;%2F" = .ok "/é b;/" := by
  have hscheme : "FiLe://".toList.map Char.toLower = fileScheme := by decide
  have hspells : Spells (Utf8.encode "/é b;/") "/%c3%A9%20b;%2F" :=
    .itself (by decide) (.percent (by decide) (by decide) (.percent (by decide) (by decide)
      (.percent (by decide) (by decide) (.itself (by decide) (.itself (by decide)
        (.percent (by decide) (by decide) .nil))))))
  obtain ⟨q, hpath, -, -, hq⟩ := toPath_spelling hscheme rfl hspells
  exact ⟨⟨hscheme, rfl, hspells⟩, hpath.trans (congrArg _ (hq.mpr rfl))⟩

/-- If the slash in front of the path is not written as itself, it belongs to the host. -/
theorem toPath_encodedSlash :
    Spells (Utf8.encode "/a/b") "%2Fa/b" ∧ toPath "file://%2Fa/b" = .ok "/b" ∧
      toPath "file://%2Fa/b" ≠ .ok "/a/b" := by
  have hspells : Spells (Utf8.encode "/a/b") "%2Fa/b" :=
    .percent (by decide) (by decide)
      (.itself (by decide) (.itself (by decide) (.itself (by decide) .nil)))
  have hpath : toPath "file://%2Fa/b" = .ok "/b" := by decide +kernel
  refine ⟨hspells, hpath, ?_⟩
  rw [hpath]
  decide

end LintReport.Url
