import LintReport.Proofs.Terminal.Painted

/-!
# Control sequences in a text made of parts

Control sequences are taken away from the left, wherever they stand and whether the text holds broken
ones too. If no sequence can go on from one part of a text into the next, what is visible of the text
is what is visible of the parts. Paint keeps to this, so however often a text is painted, the same of
it is visible.
-/

namespace LintReport.Terminal

/-- Whether no control sequence goes on with the character, once its escape character has come. -/
def isBreak (c : Char) : Bool :=
  c != '[' && !isParameter c && !isLetter c && c != '\x02'

/-- No control sequence goes on from the first text into the second. -/
structure Apart (a b : Text) : Prop where
  isBreak_of_head? : ∀ c, b.head? = some c → isBreak c = true
  not_marked : a.getLast? = some '\x01' → b.head? ≠ some escape

namespace Apart

variable {a a' b : Text}

theorem of_suffix (h : Apart a b) (hsuffix : a' <:+ a) : Apart a' b where
  isBreak_of_head? := h.isBreak_of_head?
  not_marked hlast := by
    obtain ⟨before, rfl⟩ := hsuffix
    refine h.not_marked ?_
    rw [List.getLast?_append, hlast, Option.some_or]

/-! ## The sequence at the front -/

theorem dropMark_append (h : Apart a b) : dropMark (a ++ b) = dropMark a ++ b := by
  cases a with
  | cons c a =>
      by_cases hc : c = '\x02'
      · rw [hc]
        rfl
      · simp [dropMark, hc]
  | nil =>
      cases b with
      | nil => rfl
      | cons c b =>
          have hmark : c ≠ '\x02' := by
            rintro rfl
            exact absurd (h.isBreak_of_head? _ rfl) (by decide)
          simp [dropMark, hmark]

theorem afterLetter?_append (h : Apart a b) :
    afterLetter? (a ++ b) = (afterLetter? a).map (· ++ b) := by
  unfold afterLetter?
  rw [List.dropWhile_append]
  cases hdrop : a.dropWhile isParameter with
  | cons c rest =>
      have hrest : Apart rest b := h.of_suffix
        ((List.suffix_cons c rest).trans (hdrop ▸ List.dropWhile_suffix isParameter))
      simp only [List.isEmpty_cons, Bool.false_eq_true, if_false, List.cons_append]
      split
      · rw [hrest.dropMark_append, Option.map_some]
      · rfl
  | nil =>
      cases b with
      | nil => rfl
      | cons c b =>
          have hc := h.isBreak_of_head? c rfl
          simp only [isBreak, Bool.and_eq_true, Bool.not_eq_true'] at hc
          simp [hc]

theorem afterEscape?_append (h : Apart a b) (hne : a ≠ []) :
    afterEscape? (a ++ b) = (afterEscape? a).map (· ++ b) := by
  obtain ⟨c, a, rfl⟩ := List.exists_cons_of_ne_nil hne
  by_cases hc : c = '\x1b'
  · subst hc
    cases a with
    | cons d a =>
        by_cases hd : d = '['
        · subst hd
          exact (h.of_suffix (List.suffix_append ['\x1b', '['] a)).afterLetter?_append
        · simp [afterEscape?, hd]
    | nil =>
        cases b with
        | nil => rfl
        | cons d b =>
            have hd : d ≠ '[' := by
              rintro rfl
              exact absurd (h.isBreak_of_head? _ rfl) (by decide)
            simp [afterEscape?, hd]
  · simp [afterEscape?, hc]

theorem afterSequence?_append (h : Apart a b) (hne : a ≠ []) :
    afterSequence? (a ++ b) = (afterSequence? a).map (· ++ b) := by
  obtain ⟨c, a, rfl⟩ := List.exists_cons_of_ne_nil hne
  by_cases hc : c = '\x01'
  · subst hc
    cases a with
    | cons d a =>
        exact (h.of_suffix (List.suffix_cons _ _)).afterEscape?_append (List.cons_ne_nil d a)
    | nil =>
        -- the mark stands alone, since what follows does not start a sequence
        have hb : b.head? ≠ some escape := h.not_marked rfl
        cases b with
        | nil => rfl
        | cons d b =>
            have hd : d ≠ '\x1b' := fun heq => hb (congrArg some heq)
            simp [afterSequence?, afterEscape?, hd]
  · have hmiss : ∀ t, afterSequence? (c :: t) = afterEscape? (c :: t) := by
      intro t
      simp [afterSequence?, hc]
    rw [List.cons_append, hmiss, hmiss, ← List.cons_append]
    exact h.afterEscape?_append hne

end Apart

/-! ## What follows a sequence is an end of the text -/

theorem dropMark_suffix (t : Text) : dropMark t <:+ t := by
  unfold dropMark
  split
  · exact List.suffix_cons ..
  · exact List.suffix_rfl

theorem afterLetter?_suffix {t after : Text} (h : afterLetter? t = some after) : after <:+ t := by
  unfold afterLetter? at h
  split at h
  · next c rest hdrop =>
      split at h
      · obtain rfl := Option.some.inj h
        have hrest : rest <:+ t :=
          (List.suffix_cons c rest).trans (hdrop ▸ List.dropWhile_suffix isParameter)
        exact (dropMark_suffix rest).trans hrest
      · cases h
  · cases h

theorem afterEscape?_suffix {t after : Text} (h : afterEscape? t = some after) : after <:+ t := by
  unfold afterEscape? at h
  split at h
  · exact (afterLetter?_suffix h).trans (List.suffix_append ['\x1b', '['] _)
  · cases h

theorem afterSequence?_suffix {t after : Text} (h : afterSequence? t = some after) :
    after <:+ t := by
  unfold afterSequence? at h
  split at h
  · exact (afterEscape?_suffix h).trans (List.suffix_cons ..)
  · exact afterEscape?_suffix h

/-! ## Concatenation -/

/-- By recursion along the first text: the sequence at its front, if there is one, is that of the
whole text, and what remains is still apart from the second text. -/
theorem visible_append {a b : Text} (h : Apart a b) : visible (a ++ b) = visible a ++ visible b := by
  fun_induction visible a with
  | case1 => rfl
  | case2 c rest after hsequence ih =>
      have hafter : afterSequence? (c :: (rest ++ b)) = some (after ++ b) := by
        rw [← List.cons_append, h.afterSequence?_append (List.cons_ne_nil c rest), hsequence,
          Option.map_some]
      rw [List.cons_append, visible_cons, hafter]
      exact ih (h.of_suffix (afterSequence?_suffix hsequence))
  | case3 c rest hsequence ih =>
      have hafter : afterSequence? (c :: (rest ++ b)) = none := by
        rw [← List.cons_append, h.afterSequence?_append (List.cons_ne_nil c rest), hsequence,
          Option.map_none]
      rw [List.cons_append, visible_cons, hafter]
      exact congrArg (c :: ·) (ih (h.of_suffix (List.suffix_cons c rest)))

theorem visible_of_not_control_append {a : Text} (ha : ∀ c ∈ a, isControl c = false) (b : Text) :
    visible (a ++ b) = a ++ visible b := by
  induction a with
  | nil => rfl
  | cons c a ih =>
      obtain ⟨hc, ha⟩ := List.forall_mem_cons.mp ha
      rw [List.cons_append, visible_cons, afterSequence?_of_not_control hc, ih ha]
      rfl

theorem mem_of_mem_visible {c : Char} {t : Text} (h : c ∈ visible t) : c ∈ t := by
  fun_induction visible t with
  | case1 => exact h
  | case2 d rest after hsequence ih => exact (afterSequence?_suffix hsequence).mem (ih h)
  | case3 d rest hsequence ih =>
      rcases List.mem_cons.mp h with rfl | h
      · exact List.mem_cons_self
      · exact List.mem_cons_of_mem d (ih h)

/-! ## Blanks -/

theorem isControl_of_isBlank {c : Char} (h : Text.isBlank c = true) : isControl c = false := by
  have hstart := Text.ne_of_isBlank (d := '\x01') h (by decide)
  have hstop := Text.ne_of_isBlank (d := '\x02') h (by decide)
  have hescape := Text.ne_of_isBlank (d := escape) h (by decide)
  simp [isControl, hstart.symm, hstop.symm, hescape.symm]

theorem isBreak_of_isBlank {c : Char} (h : Text.isBlank c = true) : isBreak c = true := by
  have hbracket := Text.ne_of_isBlank (d := '[') h (by decide)
  have hsemicolon := Text.ne_of_isBlank (d := ';') h (by decide)
  have hmark := Text.ne_of_isBlank (d := '\x02') h (by decide)
  have hletter : isLetter c = false := by
    have hrange := Text.toNat_of_isBlank h
    have hsmall : 'a'.toNat = 97 ∧ 'z'.toNat = 122 := ⟨rfl, rfl⟩
    have hcapitals : 'A'.toNat = 65 ∧ 'Z'.toNat = 90 := ⟨rfl, rfl⟩
    simp only [isLetter, Char.le_def, UInt32.le_iff_toNat_le, Char.toNat_val,
      Bool.or_eq_false_iff, Bool.and_eq_false_iff, decide_eq_false_iff_not]
    omega
  simp [isBreak, isParameter, hbracket.symm, hsemicolon.symm, hmark.symm, hletter,
    Text.isDigit_of_isBlank h]

/-- No control sequence goes on into blanks. -/
theorem apart_of_isBlank {b : Text} (h : ∀ c, b.head? = some c → Text.isBlank c = true)
    (a : Text) : Apart a b := by
  constructor
  · intro c hc
    exact isBreak_of_isBlank (h c hc)
  · intro _ hescape
    exact absurd (h _ hescape) (by decide)

theorem visible_append_of_blank {b : Text} (h : ∀ c ∈ b, Text.isBlank c = true) (a : Text) :
    visible (a ++ b) = visible a ++ b := by
  have hplain : ∀ c ∈ b, isControl c = false := by
    intro c hc
    exact isControl_of_isBlank (h c hc)
  have hapart : Apart a b := by
    apply apart_of_isBlank
    intro c hc
    exact h c (List.mem_of_head? hc)
  have hb := visible_of_not_control_append hplain []
  rw [List.append_nil, visible, List.append_nil] at hb
  rw [visible_append hapart, hb]

/-- Blanks at the end are no part of a control sequence, so they can be cut off before the sequences
are taken away, and those that come to stand at the end then can be cut off afterwards. -/
theorem trimEnd_visible_trimEnd (t : Text) :
    Text.trimEnd (visible (Text.trimEnd t)) = Text.trimEnd (visible t) := by
  obtain ⟨blanks, ht, hblanks⟩ := Text.exists_trimEnd_append t
  conv_rhs => rw [← ht, visible_append_of_blank hblanks]
  rw [Text.trimEnd_append_of_blank _ hblanks]

/-! ## Paint -/

/-- At neither end of the text stands a mark that a control sequence beside it would take in. -/
structure UnmarkedEnds (t : Text) : Prop where
  head?_ne : t.head? ≠ some '\x02'
  getLast?_ne : t.getLast? ≠ some '\x01'

theorem apart_rendition {t : Text} (h : t.getLast? ≠ some '\x01') (code : Nat) :
    Apart t (rendition code) where
  isBreak_of_head? c hc := by
    obtain rfl := Option.some.inj hc
    decide
  not_marked hlast := absurd hlast h

namespace UnmarkedEnds

variable {t : Text}

theorem paint (h : UnmarkedEnds t) (painter : Painter) (p : Paint) :
    UnmarkedEnds (painter.paint p t) := by
  unfold Painter.paint
  split
  · have hlast : (rendition p.stop).getLast? = some 'm' := List.getLast?_concat ..
    constructor
    · simp [rendition, escape]
    · rw [List.getLast?_append, hlast]
      simp
  · exact h

theorem visible_paint (h : UnmarkedEnds t) (painter : Painter) (p : Paint) :
    visible (painter.paint p t) = visible t := by
  unfold Painter.paint
  split
  · have hstop : visible (rendition p.stop) = [] := by
      rw [← List.append_nil (rendition p.stop), visible_rendition_append _ (by simp), visible]
    have hhead : (t ++ rendition p.stop).head? ≠ some '\x02' := by
      rw [List.head?_append]
      cases hfirst : t.head? with
      | none => simp [rendition, escape]
      | some c =>
          rw [Option.some_or, ← hfirst]
          exact h.head?_ne
    rw [List.append_assoc, visible_rendition_append _ hhead,
      visible_append (apart_rendition h.getLast?_ne _), hstop, List.append_nil]
  · rfl

end UnmarkedEnds

inductive Styling where
  | paint (p : Paint)
  | level (name : Text)
  | emphasize (name : Text)

def Styling.apply (painter : Painter) : Styling → Text → Text
  | .paint p, t => painter.paint p t
  | .level name, t => painter.level name t
  | .emphasize name, t => painter.emphasize name t

/-- The text with styles one around the other, where the last of the list is the innermost. -/
def styled (layers : List (Painter × Styling)) (t : Text) : Text :=
  layers.foldr (fun layer inside => layer.2.apply layer.1 inside) t

/-- To style for a level is to paint once or twice. -/
theorem UnmarkedEnds.apply {t : Text} (h : UnmarkedEnds t) (painter : Painter) (styling : Styling) :
    UnmarkedEnds (styling.apply painter t) ∧ visible (styling.apply painter t) = visible t := by
  cases styling with
  | paint p => exact ⟨h.paint painter p, h.visible_paint painter p⟩
  | level name => exact ⟨h.paint painter _, h.visible_paint painter _⟩
  | emphasize name =>
      have hbold := h.paint painter .bold
      exact ⟨hbold.paint painter _,
        (hbold.visible_paint painter _).trans (h.visible_paint painter .bold)⟩

theorem UnmarkedEnds.styled {t : Text} (h : UnmarkedEnds t) (layers : List (Painter × Styling)) :
    UnmarkedEnds (styled layers t) ∧ visible (styled layers t) = visible t := by
  induction layers with
  | nil => exact ⟨h, rfl⟩
  | cons layer layers ih =>
      obtain ⟨hends, hvisible⟩ := ih
      obtain ⟨hends', hvisible'⟩ := hends.apply layer.1 layer.2
      exact ⟨hends', hvisible'.trans hvisible⟩

/-- Styles take up no room and hide nothing, whatever control sequences the text holds itself. -/
theorem visible_styled (layers : List (Painter × Styling)) {t : Text}
    (hhead : t.head? ≠ some '\x02') (hlast : t.getLast? ≠ some '\x01') :
    visible (styled layers t) = visible t ∧ visibleLength (styled layers t) = visibleLength t := by
  obtain ⟨-, hvisible⟩ := UnmarkedEnds.styled ⟨hhead, hlast⟩ layers
  exact ⟨hvisible, congrArg List.length hvisible⟩

def cutText : Text := "\x01\x1b[1mA\x02\x1b[3"

def mixedLayers : List (Painter × Styling) := [
  (⟨true⟩, .emphasize "error"), (⟨false⟩, .paint .bold), (⟨true⟩, .level "note"),
  (⟨true⟩, .paint .underline)]

theorem visible_styled_cutText :
    (cutText.head? ≠ some '\x02' ∧ cutText.getLast? ≠ some '\x01') ∧
      visible (styled mixedLayers cutText) = "A\x02\x1b[3" ∧
      visibleLength (styled mixedLayers cutText) = 5 := by
  obtain ⟨hvisible, hlength⟩ := visible_styled mixedLayers (t := cutText) (by decide) (by decide)
  exact ⟨⟨by decide, by decide⟩, hvisible.trans (by decide +kernel),
    hlength.trans (by decide +kernel)⟩

/-- A mark at the end of a text goes with the sequence that takes the paint away. -/
example : visible ((Painter.mk true).paint .bold ['A', '\x01']) = ['A'] := by decide +kernel

end LintReport.Terminal
