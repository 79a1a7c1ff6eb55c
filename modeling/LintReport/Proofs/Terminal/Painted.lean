import LintReport.Proofs.Text.Split
import LintReport.Proofs.Text.Trim
import LintReport.Terminal.Painter
import Mathlib.Data.List.Forall2

/-!
# Painted texts

A painted text shows a plain one: it is the plain text with renditions put in. What it shows is
what is left when the control sequences are taken away, provided that the plain text holds no
character that could be taken for a part of them.
-/

namespace LintReport

/-! ## Digits -/

theorem Text.isDigit_of_ascii {c : Char} (h : c.isDigit = true) : Text.isDigit c = true := by
  have hrange : 0x30 ≤ c.toNat ∧ c.toNat < 0x30 + 10 := by
    simp only [Char.isDigit, Bool.and_eq_true, decide_eq_true_eq] at h
    have hlow := UInt32.le_iff_toNat_le.mp h.1
    have hhigh := UInt32.le_iff_toNat_le.mp h.2
    change 48 ≤ c.toNat at hlow
    change c.toNat ≤ 57 at hhigh
    omega
  have hfind : (Text.digitZeros.find? fun first =>
      decide (first ≤ c.toNat ∧ c.toNat < first + 10)) = some 0x30 := by
    rw [Text.digitZeros, List.find?_cons_of_pos (by simpa using hrange)]
  rw [Text.isDigit, Text.digit?, hfind]
  rfl

theorem Decimal.isDigit_of_mem_toDigits {c : Char} {n : Nat} (h : c ∈ Nat.toDigits 10 n) :
    Text.isDigit c = true :=
  Text.isDigit_of_ascii (Nat.isDigit_of_mem_toDigits (by decide) (by decide) h)

theorem Text.isBlank_of_isDigit {c : Char} (h : isDigit c = true) : isBlank c = false := by
  have hapart : ∀ first ∈ Text.digitZeros, ∀ range ∈ Text.blankRanges,
      range.2 < first ∨ first + 10 ≤ range.1 := by decide
  obtain ⟨first, hfirst⟩ := Option.isSome_iff_exists.mp (Option.isSome_map.symm.trans h)
  have hdigit := List.find?_some hfirst
  rw [Text.isBlank, List.any_eq_false]
  intro range hrange hin
  have hrow := hapart first (List.mem_of_find?_eq_some hfirst) range hrange
  rw [decide_eq_true_eq] at hdigit hin
  omega

theorem Text.isDigit_of_isBlank {c : Char} (h : isBlank c = true) : isDigit c = false := by
  cases hdigit : Text.isDigit c with
  | false => rfl
  | true =>
      rw [Text.isBlank_of_isDigit hdigit] at h
      cases h

namespace Terminal

/-! ## Control characters -/

/-- Whether the character starts a control sequence or is a mark beside one. -/
def isControl (c : Char) : Bool :=
  c = '\x01' || c = '\x02' || c = escape

/-- Whether a text is shown as it is, on one line. -/
def IsPlain (t : Text) : Prop :=
  ∀ c ∈ t, isControl c = false ∧ c ≠ '\n'

instance (t : Text) : Decidable (IsPlain t) :=
  decidable_of_iff (t.all fun c => !isControl c && c != '\n') (by simp [IsPlain])

theorem isControl_of_isDigit {c : Char} (h : Text.isDigit c = true) : isControl c = false := by
  cases hc : isControl c with
  | false => rfl
  | true =>
      simp only [isControl, Bool.or_eq_true, decide_eq_true_eq] at hc
      rcases hc with (rfl | rfl) | rfl <;> exact absurd h (by decide)

theorem afterSequence?_of_not_control {c : Char} (hc : isControl c = false) (t : Text) :
    afterSequence? (c :: t) = none := by
  simp only [isControl, Bool.or_eq_false_iff, decide_eq_false_iff_not] at hc
  obtain ⟨⟨hstart, -⟩, hescape⟩ := hc
  unfold afterSequence?
  split
  · next heq => exact absurd (List.cons.inj heq).1 hstart
  · unfold afterEscape?
    split
    · next heq => exact absurd (List.cons.inj heq).1 hescape
    · rfl

theorem afterSequence?_rendition (code : Nat) {t : Text} (h : t.head? ≠ some '\x02') :
    afterSequence? (rendition code ++ t) = some t := by
  have hparameters : ∀ c ∈ Nat.toDigits 10 code, isParameter c = true := by
    intro c hc
    rw [isParameter, Decimal.isDigit_of_mem_toDigits hc, Bool.or_true]
  have hrest : (Nat.toDigits 10 code ++ 'm' :: t).dropWhile isParameter = 'm' :: t := by
    rw [List.dropWhile_append_of_pos hparameters, List.dropWhile_cons_of_neg (by decide)]
  have hmark : dropMark t = t := by
    unfold dropMark
    split
    · exact absurd rfl h
    · rfl
  have happend : rendition code ++ t = '\x1b' :: '[' :: (Nat.toDigits 10 code ++ 'm' :: t) := by
    simp [rendition, escape]
  rw [happend]
  show afterLetter? (Nat.toDigits 10 code ++ 'm' :: t) = some t
  unfold afterLetter?
  rw [hrest]
  dsimp only
  rw [if_pos (by decide), hmark]

theorem visible_cons (c : Char) (t : Text) :
    visible (c :: t) =
      match afterSequence? (c :: t) with
      | some after => visible after
      | none => c :: visible t := by
  rw [visible]
  split <;> simp_all

theorem visible_rendition_append (code : Nat) {t : Text} (h : t.head? ≠ some '\x02') :
    visible (rendition code ++ t) = visible t := by
  have hsequence := afterSequence?_rendition code h
  have happend : ∃ rest, rendition code = escape :: rest := ⟨_, rfl⟩
  obtain ⟨rest, hrest⟩ := happend
  rw [hrest, List.cons_append] at hsequence ⊢
  rw [visible_cons, hsequence]

/-! ## What a painted text shows -/

/-- The first text is the second with renditions put in, and no character of the second could be
taken for a part of them. -/
inductive Shows : Text → Text → Prop where
  | nil : Shows [] []
  | char {c : Char} {painted plain : Text} (hc : isControl c = false)
      (h : Shows painted plain) : Shows (c :: painted) (c :: plain)
  | rendition (code : Nat) {painted plain : Text} (h : Shows painted plain) :
      Shows (rendition code ++ painted) plain

namespace Shows

variable {painted plain painted' plain' t : Text}

theorem append (h : Shows painted plain) (h' : Shows painted' plain') :
    Shows (painted ++ painted') (plain ++ plain') := by
  induction h with
  | nil => exact h'
  | char hc _ ih => exact char hc ih
  | rendition code _ ih =>
      rw [List.append_assoc]
      exact rendition code ih

theorem of_not_control (h : ∀ c ∈ t, isControl c = false) : Shows t t := by
  induction t with
  | nil => exact nil
  | cons c t ih =>
      rw [List.forall_mem_cons] at h
      exact char h.1 (ih h.2)

theorem of_isPlain (h : IsPlain t) : Shows t t :=
  of_not_control fun c hc => (h c hc).1

theorem paint (painter : Painter) (p : Paint) (h : Shows painted plain) :
    Shows (painter.paint p painted) plain := by
  unfold Painter.paint
  split
  · have hstop : Shows (Terminal.rendition p.stop) [] := by
      simpa using rendition p.stop nil
    have happend := (rendition p.start h).append hstop
    rwa [List.append_nil] at happend
  · exact h

theorem not_control (h : Shows painted plain) : ∀ c ∈ plain, isControl c = false := by
  induction h with
  | nil => simp
  | char hc _ ih =>
      rw [List.forall_mem_cons]
      exact ⟨hc, ih⟩
  | rendition _ _ ih => exact ih

theorem head?_ne (h : Shows painted plain) : painted.head? ≠ some '\x02' := by
  cases h with
  | nil => simp
  | char hc _ =>
      rw [List.head?_cons]
      intro heq
      obtain rfl := Option.some.inj heq
      exact absurd hc (by decide)
  | rendition code _ => simp [Terminal.rendition, escape]

theorem visible_eq (h : Shows painted plain) : visible painted = plain := by
  induction h with
  | nil => rw [visible]
  | char hc _ ih => rw [visible_cons, afterSequence?_of_not_control hc, ih]
  | rendition code h ih => rw [visible_rendition_append code h.head?_ne, ih]

/-- Paint takes up no room. -/
theorem visibleLength_eq (h : Shows painted plain) :
    visibleLength painted = visibleLength plain := by
  rw [visibleLength, visibleLength, h.visible_eq, (of_not_control h.not_control).visible_eq]

theorem mem_newline_iff (h : Shows painted plain) : '\n' ∈ painted ↔ '\n' ∈ plain := by
  induction h with
  | nil => rfl
  | char _ _ ih => rw [List.mem_cons, List.mem_cons, ih]
  | rendition code _ ih =>
      have hdigits : '\n' ∉ Nat.toDigits 10 code := fun hmem =>
        absurd (Decimal.isDigit_of_mem_toDigits hmem) (by decide)
      have hrendition : '\n' ∉ Terminal.rendition code := by
        simp [Terminal.rendition, escape, hdigits]
      rw [List.mem_append, ih, or_iff_right hrendition]

theorem join {sep : Text} (hsep : Shows sep sep) {painted plain : List Text}
    (h : List.Forall₂ Shows painted plain) :
    Shows (Text.join sep painted) (Text.join sep plain) := by
  induction h with
  | nil => exact nil
  | cons hfirst hrest ih =>
      cases hrest with
      | nil => exact hfirst
      | cons hnext hrest => exact (hfirst.append hsep).append ih

theorem eq_nil_of_nil (h : Shows [] plain) : plain = [] := by
  generalize hpainted : ([] : Text) = painted at h
  cases h with
  | nil => rfl
  | char _ _ => simp at hpainted
  | rendition code _ => simp [Terminal.rendition] at hpainted

theorem trimEnd_rendition (code : Nat) :
    Text.trimEnd (Terminal.rendition code) = Terminal.rendition code := by
  apply Text.trimEnd_of_getLast?
  intro c hc
  rw [Terminal.rendition, List.getLast?_concat] at hc
  obtain rfl := Option.some.inj hc
  decide

/-- The end of a painted text may be trimmed less than that of the plain one, since renditions stand
before the blanks. -/
theorem trimEnd (h : Shows painted plain) :
    ∃ shown, Shows (Text.trimEnd painted) shown ∧ Text.trimEnd shown = Text.trimEnd plain := by
  induction h with
  | nil => exact ⟨[], nil, rfl⟩
  | @char c painted plain hc _ ih =>
      obtain ⟨shown, hshown, htrim⟩ := ih
      unfold Text.trimEnd at hshown htrim ⊢
      rw [Text.dropEndWhile]
      split
      · next hnil =>
          rw [hnil] at hshown
          have hempty : Text.dropEndWhile Text.isBlank plain = [] := by
            rw [← htrim, hshown.eq_nil_of_nil]
            rfl
          split
          · next hblank =>
              refine ⟨[], nil, ?_⟩
              simp [Text.dropEndWhile, hempty, hblank]
          · next hblank =>
              refine ⟨[c], char hc nil, ?_⟩
              simp [Text.dropEndWhile, hempty, hblank]
      · -- something painted remains, perhaps only a rendition, and `c` stays before it
        refine ⟨c :: shown, char hc hshown, ?_⟩
        rw [Text.dropEndWhile, Text.dropEndWhile, htrim]
  | @rendition code painted plain _ ih =>
      obtain ⟨shown, hshown, htrim⟩ := ih
      refine ⟨shown, ?_, htrim⟩
      -- a rendition ends in a letter, so trimming does not go past it
      have hcode := trimEnd_rendition code
      unfold Text.trimEnd at hshown hcode ⊢
      rw [Text.dropEndWhile_append, hcode]
      split
      · next hnil =>
          rw [hnil] at hshown
          rw [← List.append_nil (Terminal.rendition code)]
          exact rendition code hshown
      · exact rendition code hshown

theorem trimEnd_ne_nil (h : Shows painted plain) (hplain : Text.trimEnd plain ≠ []) :
    Text.trimEnd painted ≠ [] := by
  intro hnil
  obtain ⟨shown, hshown, htrim⟩ := h.trimEnd
  rw [hnil] at hshown
  rw [hshown.eq_nil_of_nil] at htrim
  exact hplain htrim.symm

end Shows

/-! ## Line by line -/

/-- What the first text shows is the second, if blanks at the ends of lines do not count. -/
def ShowsLines (painted plain : Text) : Prop :=
  ∃ shown, Shows painted shown ∧
    (Text.lines shown).map Text.trimEnd = (Text.lines plain).map Text.trimEnd

namespace ShowsLines

variable {painted plain painted' plain' shown : Text}

theorem of_shows (h : Shows painted plain) : ShowsLines painted plain :=
  ⟨plain, h, rfl⟩

theorem of_trimEnd (h : Shows painted shown) (hshown : '\n' ∉ shown) (hplain : '\n' ∉ plain)
    (htrim : Text.trimEnd shown = Text.trimEnd plain) : ShowsLines painted plain := by
  refine ⟨shown, h, ?_⟩
  rw [Text.lines, Text.lines, Text.split_of_not_mem hshown, Text.split_of_not_mem hplain,
    List.map_singleton, List.map_singleton, htrim]

theorem append_newline (h : ShowsLines painted plain) (h' : ShowsLines painted' plain') :
    ShowsLines (painted ++ '\n' :: painted') (plain ++ '\n' :: plain') := by
  obtain ⟨shown, hshown, htrim⟩ := h
  obtain ⟨shown', hshown', htrim'⟩ := h'
  refine ⟨shown ++ '\n' :: shown', hshown.append (.char (by decide) hshown'), ?_⟩
  unfold Text.lines at htrim htrim' ⊢
  rw [Text.split_append_separator, Text.split_append_separator, List.map_append, List.map_append,
    htrim, htrim']

theorem join {painted plain : List Text} (h : List.Forall₂ ShowsLines painted plain) :
    ShowsLines (Text.join ['\n'] painted) (Text.join ['\n'] plain) := by
  induction h with
  | nil => exact of_shows .nil
  | cons hfirst hrest ih =>
      cases hrest with
      | nil => exact hfirst
      | cons hnext hrest =>
          rw [Text.join, Text.join, List.append_assoc, List.append_assoc]
          exact hfirst.append_newline ih

theorem lines_visible (h : ShowsLines painted plain) :
    (Text.lines (visible painted)).map Text.trimEnd = (Text.lines plain).map Text.trimEnd := by
  obtain ⟨shown, hshown, htrim⟩ := h
  rw [hshown.visible_eq, htrim]

end ShowsLines

end Terminal

end LintReport
