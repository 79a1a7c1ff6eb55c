import LintReport.Proofs.Report.Rows
import Mathlib.Data.List.TakeWhile

/-!
# The first position of a line

Where two numbers stand in a line with nothing but blanks between them, the first two of them are
joined by a colon in the place of the blanks. Nothing else of the line is touched. Main statements:
a line keeps its text if and only if it has no such numbers, and a text whose lines are joined one by
one keeps its beginning if and only if no line of that beginning has any.
-/

namespace LintReport.Report

/-! ## Positions in a line -/

/-- Whether a text goes on with blanks, at least one, and then a digit. -/
def ReachesDigit (t : Text) : Prop :=
  ∃ blanks b after, t = blanks ++ b :: after ∧ blanks ≠ [] ∧
    (∀ c ∈ blanks, Text.isBlank c = true) ∧ Text.isDigit b = true

/-- Whether two digits stand in a text with nothing but blanks between them, of which there is at
least one. -/
inductive HasPosition : Text → Prop
  | here {a : Char} {t : Text} (ha : Text.isDigit a = true) (h : ReachesDigit t) :
      HasPosition (a :: t)
  | there {c : Char} {t : Text} (h : HasPosition t) : HasPosition (c :: t)

theorem ReachesDigit.append {t : Text} (h : ReachesDigit t) (after : Text) :
    ReachesDigit (t ++ after) := by
  obtain ⟨blanks, b, rest, rfl, hblanks⟩ := h
  exact ⟨blanks, b, rest ++ after, by rw [List.append_assoc, List.cons_append], hblanks⟩

theorem HasPosition.append {t : Text} (h : HasPosition t) (after : Text) :
    HasPosition (t ++ after) := by
  induction h with
  | here ha h => exact .here ha (h.append after)
  | there _ ih => exact .there ih

theorem HasPosition.prepend {t : Text} (h : HasPosition t) (before : Text) :
    HasPosition (before ++ t) := by
  induction before with
  | nil => exact h
  | cons c before ih => exact .there ih

theorem not_reachesDigit_blanks {blanks : Text} (hblanks : ∀ c ∈ blanks, Text.isBlank c = true) :
    ¬ ReachesDigit blanks := by
  rintro ⟨inner, b, after, rfl, -, -, hb⟩
  have hblank := hblanks b (by simp)
  rw [Text.isBlank_of_isDigit hb] at hblank
  cases hblank

theorem not_reachesDigit_cons {c : Char} (hc : Text.isBlank c = false) (t : Text) :
    ¬ ReachesDigit (c :: t) := by
  rintro ⟨inner, b, after, hsplit, hne, hinner, -⟩
  obtain ⟨d, inner, rfl⟩ := List.exists_cons_of_ne_nil hne
  obtain rfl := (List.cons.inj hsplit).1
  rw [hinner c List.mem_cons_self] at hc
  cases hc

/-- Up to the blanks after the first number there is no position. -/
theorem not_hasPosition_digits_blanks {digits blanks : Text}
    (hdigits : ∀ c ∈ digits, Text.isDigit c = true)
    (hblanks : ∀ c ∈ blanks, Text.isBlank c = true) :
    ¬ HasPosition (digits ++ blanks) := by
  intro h
  induction digits with
  | nil =>
      rw [List.nil_append] at h
      induction h with
      | here ha h =>
          rw [List.forall_mem_cons] at hblanks
          exact not_reachesDigit_blanks hblanks.2 h
      | there _ ih => exact ih (List.forall_mem_cons.mp hblanks).2
  | cons c digits ih =>
      rw [List.forall_mem_cons] at hdigits
      cases h with
      | there h => exact ih hdigits.2 h
      | here ha h =>
          cases digits with
          | nil => exact not_reachesDigit_blanks hblanks h
          | cons d digits =>
              exact not_reachesDigit_cons
                (Text.isBlank_of_isDigit (hdigits.2 d List.mem_cons_self)) _ h

/-- The first position of a text: where it stands, there is none up to the end of its blanks. -/
structure FirstPosition (t before : Text) (a : Char) (blanks : Text) (b : Char) (after : Text) :
    Prop where
  split : t = before ++ a :: (blanks ++ b :: after)
  start : Text.isDigit a = true
  ne_nil : blanks ≠ []
  blank : ∀ c ∈ blanks, Text.isBlank c = true
  stop : Text.isDigit b = true
  first : ¬ HasPosition (before ++ a :: blanks)

theorem FirstPosition.hasPosition {t before blanks after : Text} {a b : Char}
    (h : FirstPosition t before a blanks b after) : HasPosition t := by
  rw [h.split]
  exact (HasPosition.here h.start ⟨blanks, b, after, rfl, h.ne_nil, h.blank, h.stop⟩).prepend before

/-- What joining does at the first character of a text: either a number begins there that is joined
with the next one, or joining goes on behind that character, with which no position begins. -/
theorem joinPosition_cons (c : Char) (t : Text) :
    (∃ digits blanks b after, c :: t = digits ++ (blanks ++ b :: after) ∧ digits ≠ [] ∧
        (∀ d ∈ digits, Text.isDigit d = true) ∧ blanks ≠ [] ∧
        (∀ d ∈ blanks, Text.isBlank d = true) ∧ Text.isDigit b = true ∧
        joinPosition ⟨false⟩ (c :: t) = digits ++ ':' :: b :: after) ∨
      joinPosition ⟨false⟩ (c :: t) = c :: joinPosition ⟨false⟩ t ∧
        ¬ (Text.isDigit c = true ∧ ReachesDigit t) := by
  rw [joinPosition]
  split
  · next h =>
      obtain ⟨hdigits, hshorter, hcolumn⟩ := h
      refine Or.inl ⟨(c :: t).takeWhile Text.isDigit,
        ((c :: t).dropWhile Text.isDigit).takeWhile Text.isBlank, ?_⟩
      generalize hafterLine : (c :: t).dropWhile Text.isDigit = afterLine at *
      have hblanks := List.takeWhile_append_dropWhile (p := Text.isBlank) (l := afterLine)
      rw [Text.trimStart] at hshorter hcolumn ⊢
      cases hafter : afterLine.dropWhile Text.isBlank with
      | nil =>
          rw [hafter] at hcolumn
          exact absurd rfl hcolumn
      | cons b after =>
          rw [hafter] at hshorter hcolumn hblanks
          have hb : Text.isDigit b = true := by
            by_contra hb
            exact hcolumn (List.takeWhile_cons_of_neg hb)
          refine ⟨b, after, ?_, hdigits, fun _ => List.mem_takeWhile_imp, ?_,
            fun _ => List.mem_takeWhile_imp, hb, ?_⟩
          · rw [hblanks, ← hafterLine, List.takeWhile_append_dropWhile]
          · intro hnil
            rw [hnil, List.nil_append] at hblanks
            rw [← hblanks] at hshorter
            exact Nat.lt_irrefl _ hshorter
          · show _ ++ ':' :: _ ++ _ = _
            rw [List.append_assoc, List.cons_append, List.takeWhile_append_dropWhile]
  · next h =>
      refine Or.inr ⟨rfl, ?_⟩
      rintro ⟨hc, blanks, b, after, rfl, hne, hblanks, hb⟩
      obtain ⟨d, rest, rfl⟩ := List.exists_cons_of_ne_nil hne
      have hd := Text.isDigit_of_isBlank (hblanks d List.mem_cons_self)
      obtain ⟨hline, hafterLine⟩ := takeWhile_append_of_head? (p := Text.isDigit) (a := [c])
        (b := d :: rest ++ b :: after) (by simpa using hc) (by simpa using hd)
      obtain ⟨-, hafterBlanks⟩ := takeWhile_append_of_head? (b := b :: after) hblanks
        (by simpa using Text.isBlank_of_isDigit hb)
      rw [List.singleton_append] at hline hafterLine
      refine h ?_
      rw [hline, hafterLine, Text.trimStart, hafterBlanks, List.takeWhile_cons_of_pos hb]
      refine ⟨List.cons_ne_nil c [], ?_, List.cons_ne_nil b _⟩
      simp only [List.cons_append, List.length_cons, List.length_append]
      omega

/-- Joining leaves a line alone that has no position. Otherwise it puts a colon in the place of the
blanks of the first one. -/
theorem joinPosition_cases (t : Text) :
    (¬ HasPosition t ∧ joinPosition ⟨false⟩ t = t) ∨
      ∃ before a blanks b after, FirstPosition t before a blanks b after ∧
        joinPosition ⟨false⟩ t = before ++ a :: ':' :: b :: after := by
  induction t with
  | nil => exact Or.inl ⟨nofun, rfl⟩
  | cons c t ih =>
      rcases joinPosition_cons c t with
        ⟨digits, blanks, b, after, hsplit, hne, hdigits, hblanks, hblank, hb, hjoined⟩ |
          ⟨hjoined, hnone⟩
      · -- of the first number only the last digit belongs to the position
        obtain ⟨before, a, rfl⟩ : ∃ before a, digits = before ++ [a] :=
          ⟨_, _, (List.dropLast_append_getLast hne).symm⟩
        refine Or.inr ⟨before, a, blanks, b, after, ⟨?_, hdigits a (by simp), hblanks, hblank, hb,
          ?_⟩, ?_⟩
        · rw [hsplit, ← List.append_cons]
        · rw [List.append_cons]
          exact not_hasPosition_digits_blanks hdigits hblank
        · rw [hjoined, ← List.append_cons]
      · rw [hjoined]
        rcases ih with ⟨hnot, ih⟩ | ⟨before, a, blanks, b, after, hfirst, ih⟩
        · refine Or.inl ⟨?_, by rw [ih]⟩
          rintro (⟨hc, h⟩ | h)
          · exact hnone ⟨hc, h⟩
          · exact hnot h
        · refine Or.inr ⟨c :: before, a, blanks, b, after, ⟨?_, hfirst.start, hfirst.ne_nil,
            hfirst.blank, hfirst.stop, ?_⟩, by rw [ih, List.cons_append]⟩
          · rw [hfirst.split, List.cons_append]
          · rintro (⟨hc, h⟩ | h)
            · refine hnone ⟨hc, ?_⟩
              rw [hfirst.split, ← List.cons_append, ← List.append_assoc]
              exact h.append (b :: after)
            · exact hfirst.first h

theorem joinPosition_eq_self_iff {t : Text} :
    joinPosition ⟨false⟩ t = t ↔ ¬ HasPosition t := by
  rcases joinPosition_cases t with ⟨hnot, heq⟩ | ⟨before, a, blanks, b, after, hfirst, heq⟩
  · exact iff_of_true heq hnot
  · refine iff_of_false (fun h => ?_) (fun hnot => hnot hfirst.hasPosition)
    obtain ⟨d, blanks, rfl⟩ := List.exists_cons_of_ne_nil hfirst.ne_nil
    -- one of the blanks would have to be the colon
    have hcolon := heq.symm.trans (h.trans hfirst.split)
    obtain rfl : ':' = d := (List.cons.inj (List.cons.inj (List.append_cancel_left hcolon)).2).1
    exact absurd (hfirst.blank ':' List.mem_cons_self) (by decide)

theorem mem_of_mem_joinPosition {c : Char} {t : Text} (h : c ∈ joinPosition ⟨false⟩ t) :
    c ∈ t ∨ c = ':' := by
  rcases joinPosition_cases t with ⟨-, heq⟩ | ⟨before, a, blanks, b, after, hfirst, heq⟩
  · exact Or.inl (heq ▸ h)
  · rw [heq] at h
    rw [hfirst.split]
    simp only [List.mem_append, List.mem_cons] at h ⊢
    tauto

theorem not_forall_isBlank_of_getLast? {before rest : Text} (hne : rest ≠ [])
    (hend : ∀ c, (before ++ rest).getLast? = some c → Text.isBlank c = false) :
    ¬ ∀ c ∈ rest, Text.isBlank c = true := by
  obtain ⟨init, c, rfl⟩ : ∃ init c, rest = init ++ [c] :=
    ⟨_, _, (List.dropLast_append_getLast hne).symm⟩
  intro hblank
  have hc := hend c (by rw [← List.append_assoc, List.getLast?_concat])
  rw [hblank c (by simp)] at hc
  cases hc

/-- A beginning of a line that does not end in a blank is kept if and only if it has no position of
its own. -/
theorem prefix_joinPosition_iff {p : Text}
    (hend : ∀ c, p.getLast? = some c → Text.isBlank c = false) (x : Text) :
    p <+: joinPosition ⟨false⟩ (p ++ x) ↔ ¬ HasPosition p := by
  rcases joinPosition_cases (p ++ x) with ⟨hnot, heq⟩ | ⟨before, a, blanks, b, after, hfirst, heq⟩
  · rw [heq]
    exact iff_of_true (List.prefix_append p x) fun h => hnot (h.append x)
  · rw [heq]
    have hsplit := hfirst.split
    rw [List.append_cons] at hsplit
    rcases List.append_eq_append_iff.mp hsplit with ⟨rest, hp, -⟩ | ⟨rest, rfl, hrest⟩
    · -- the beginning ends with the first digit or before it
      refine iff_of_true ⟨rest ++ ':' :: b :: after, ?_⟩ fun h => hfirst.first ?_
      · rw [← List.append_assoc, ← hp, ← List.append_cons]
      · rw [List.append_cons, hp, List.append_assoc]
        exact h.append (rest ++ blanks)
    · rcases List.append_eq_append_iff.mp hrest with ⟨later, rfl, hlater⟩ | ⟨later, hblanks, -⟩
      · cases later with
        | nil =>
            rw [List.append_nil] at hend
            exact absurd hfirst.blank (not_forall_isBlank_of_getLast? hfirst.ne_nil hend)
        | cons d later =>
            -- it goes on behind the blanks, the first of which would have to be the colon
            obtain ⟨rfl, -⟩ := List.cons.inj hlater
            have hposition : HasPosition (before ++ [a] ++ (blanks ++ b :: later)) :=
              FirstPosition.hasPosition ⟨(List.append_cons ..).symm, hfirst.start, hfirst.ne_nil,
                hfirst.blank, hfirst.stop, hfirst.first⟩
            refine iff_of_false (fun h => ?_) (fun hnot => hnot hposition)
            rw [List.append_cons before a (':' :: b :: after), List.prefix_append_right_inj] at h
            obtain ⟨d, blanks, rfl⟩ := List.exists_cons_of_ne_nil hfirst.ne_nil
            obtain rfl : d = ':' := (List.cons_prefix_cons.mp h).1
            exact absurd (hfirst.blank ':' List.mem_cons_self) (by decide)
      · cases rest with
        | nil =>
            rw [List.append_nil]
            refine iff_of_true ⟨':' :: b :: after, (List.append_cons ..).symm⟩ fun h =>
              hfirst.first ?_
            rw [List.append_cons]
            exact h.append blanks
        | cons d rest =>
            -- it would end among the blanks
            exact absurd (fun c hc => hfirst.blank c (hblanks ▸ List.mem_append_left later hc))
              (not_forall_isBlank_of_getLast? (List.cons_ne_nil d rest) hend)

/-! ## Positions in the lines of a text -/

/-- The text with the first position of each of its lines joined. -/
def joinPositions (t : Text) : Text :=
  Text.join ['\n'] ((Text.lines t).map (joinPosition ⟨false⟩))

/-- The text with the first position of each of its lines but the first joined. -/
def joinLater (t : Text) : Text :=
  match Text.lines t with
  | [] => []
  | first :: later => Text.join ['\n'] (first :: later.map (joinPosition ⟨false⟩))

variable {a t : Text}

theorem joinLater_of_not_mem (h : '\n' ∉ t) : joinLater t = t := by
  rw [joinLater, Text.lines, Text.split_of_not_mem h]
  rfl

theorem joinPositions_of_not_mem (h : '\n' ∉ t) : joinPositions t = joinPosition ⟨false⟩ t := by
  rw [joinPositions, Text.lines, Text.split_of_not_mem h]
  rfl

theorem not_mem_newline_joinPosition (h : '\n' ∉ t) : '\n' ∉ joinPosition ⟨false⟩ t := by
  intro hmem
  rcases mem_of_mem_joinPosition hmem with hmem | heq
  · exact h hmem
  · cases heq

theorem joinLater_append_newline (h : '\n' ∉ a) (t : Text) :
    joinLater (a ++ '\n' :: t) = a ++ '\n' :: joinPositions t := by
  rw [joinLater, Text.lines, Text.split_append_cons h, joinPositions, Text.lines]
  obtain ⟨line, lines, hlines⟩ := List.exists_cons_of_ne_nil (Text.split_ne_nil '\n' t)
  rw [hlines]
  show _ ++ ['\n'] ++ _ = _
  rw [← List.append_cons]
  rfl

/-- What stands in front of the first line break is not touched. -/
theorem joinLater_append (h : '\n' ∉ a) (t : Text) : joinLater (a ++ t) = a ++ joinLater t := by
  obtain ⟨line, lines, hlines⟩ := List.exists_cons_of_ne_nil (Text.split_ne_nil '\n' t)
  rw [joinLater, joinLater, Text.lines, Text.lines, Text.split_append_of_not_mem h hlines, hlines]
  cases lines with
  | nil => rfl
  | cons next lines =>
      show _ ++ _ ++ _ = _ ++ (_ ++ _ ++ _)
      simp

theorem joinPositions_append_newline (a t : Text) :
    joinPositions (a ++ '\n' :: t) = joinPositions a ++ '\n' :: joinPositions t := by
  have hne : ∀ s : Text, (Text.split '\n' s).map (joinPosition ⟨false⟩) ≠ [] := fun s hnil =>
    Text.split_ne_nil '\n' s (List.map_eq_nil_iff.mp hnil)
  rw [joinPositions, Text.lines, Text.split_append_separator, List.map_append,
    Text.join_append (hne a) (hne t), ← List.append_cons]
  rfl

theorem joinPositions_join {ts : List Text} (hne : ts ≠ []) :
    joinPositions (Text.join ['\n'] ts) = Text.join ['\n'] (ts.map joinPositions) := by
  induction ts with
  | nil => exact absurd rfl hne
  | cons t ts ih =>
      cases ts with
      | nil => rfl
      | cons next ts =>
          show joinPositions (_ ++ ['\n'] ++ _) = _ ++ ['\n'] ++ _
          rw [← List.append_cons, ← List.append_cons, joinPositions_append_newline,
            ih (List.cons_ne_nil next ts)]
          rfl

/-- Where the first position of every line that has a certain beginning is in this beginning, so is
that of a text, and the first line holds no other that is joined. -/
theorem joinPositions_append {joined : Text} (ha : '\n' ∉ a)
    (h : ∀ s, joinPosition ⟨false⟩ (a ++ s) = joined ++ s) (t : Text) :
    joinPositions (a ++ t) = joined ++ joinLater t := by
  by_cases ht : '\n' ∈ t
  · obtain ⟨first, later, rfl, hfirst⟩ := List.eq_append_cons_of_mem ht
    rw [← List.append_assoc, joinPositions_append_newline,
      joinPositions_of_not_mem (by simp [ha, hfirst]), h, joinLater_append_newline hfirst,
      List.append_assoc]
  · rw [joinPositions_of_not_mem (by simp [ha, ht]), h, joinLater_of_not_mem ht]

theorem lines_append_newline (h : '\n' ∉ a) (t : Text) :
    Text.lines (a ++ '\n' :: t) = a :: Text.lines t :=
  Text.split_append_cons h t

theorem isBlank_getLast?_of_append_cons {c : Char}
    (h : ∀ d, (a ++ c :: t).getLast? = some d → Text.isBlank d = false) :
    ∀ d, t.getLast? = some d → Text.isBlank d = false := by
  intro d hd
  refine h d ?_
  rw [List.append_cons, List.getLast?_append, hd]
  rfl

theorem prefix_append_iff_of_not_mem {p a : Text} {c : Char} (h : c ∉ p) (t : Text) :
    p <+: a ++ c :: t ↔ p <+: a := by
  induction p generalizing a with
  | nil => simp
  | cons d p ih =>
      rw [List.mem_cons, not_or] at h
      cases a with
      | nil => simp [List.cons_prefix_cons, Ne.symm h.1]
      | cons e a => rw [List.cons_append, List.cons_prefix_cons, List.cons_prefix_cons, ih h.2]

theorem append_cons_prefix_iff {a b p t : Text} {c : Char} (ha : c ∉ a) (hb : c ∉ b) :
    a ++ c :: p <+: b ++ c :: t ↔ b = a ∧ p <+: t := by
  induction a generalizing b with
  | nil =>
      cases b with
      | nil => simp [List.cons_prefix_cons]
      | cons d b =>
          rw [List.mem_cons, not_or] at hb
          simp [List.cons_prefix_cons, hb.1]
  | cons e a ih =>
      rw [List.mem_cons, not_or] at ha
      cases b with
      | nil => simp [List.cons_prefix_cons, Ne.symm ha.1]
      | cons d b =>
          rw [List.mem_cons, not_or] at hb
          rw [List.cons_append, List.cons_append, List.cons_prefix_cons, ih ha.2 hb.2,
            List.cons.injEq, and_assoc, eq_comm (a := e)]

theorem prefix_joinPositions_iff_of_not_mem {p : Text} (hp : '\n' ∉ p)
    (hend : ∀ c, p.getLast? = some c → Text.isBlank c = false) (x : Text) :
    p <+: joinPositions (p ++ x) ↔ ¬ HasPosition p := by
  by_cases hx : '\n' ∈ x
  · obtain ⟨before, after, rfl, hbefore⟩ := List.eq_append_cons_of_mem hx
    rw [← List.append_assoc, joinPositions_append_newline, prefix_append_iff_of_not_mem hp,
      joinPositions_of_not_mem (by simp [hp, hbefore])]
    exact prefix_joinPosition_iff hend before
  · rw [joinPositions_of_not_mem (by simp [hp, hx])]
    exact prefix_joinPosition_iff hend x

/-- A beginning of a text that does not end in a blank is kept if and only if none of its lines has
a position. -/
theorem prefix_joinPositions_iff {p : Text}
    (hend : ∀ c, p.getLast? = some c → Text.isBlank c = false) (x : Text) :
    p <+: joinPositions (p ++ x) ↔ ∀ line ∈ Text.lines p, ¬ HasPosition line := by
  induction hn : p.length using Nat.strong_induction_on generalizing p with
  | _ n ih =>
      subst hn
      by_cases hp : '\n' ∈ p
      · -- the first line is kept as a whole, and the rest is a shorter beginning
        obtain ⟨line, later, rfl, hline⟩ := List.eq_append_cons_of_mem hp
        rw [List.append_assoc, List.cons_append, joinPositions_append_newline,
          joinPositions_of_not_mem hline,
          append_cons_prefix_iff hline (not_mem_newline_joinPosition hline),
          joinPosition_eq_self_iff,
          ih later.length (by simp; omega) (isBlank_getLast?_of_append_cons hend) rfl,
          lines_append_newline hline, List.forall_mem_cons]
      · rw [prefix_joinPositions_iff_of_not_mem hp hend, Text.lines, Text.split_of_not_mem hp,
          List.forall_mem_singleton]

/-- A beginning of a text that does not end in a blank is kept by joining in the later lines if and
only if none of its own later lines has a position. -/
theorem prefix_joinLater_iff {p : Text}
    (hend : ∀ c, p.getLast? = some c → Text.isBlank c = false) (x : Text) :
    p <+: joinLater (p ++ x) ↔ ∀ line ∈ (Text.lines p).tail, ¬ HasPosition line := by
  by_cases hp : '\n' ∈ p
  · obtain ⟨line, later, rfl, hline⟩ := List.eq_append_cons_of_mem hp
    rw [List.append_assoc, List.cons_append, joinLater_append_newline hline,
      append_cons_prefix_iff hline hline, and_iff_right rfl,
      prefix_joinPositions_iff (isBlank_getLast?_of_append_cons hend), lines_append_newline hline,
      List.tail_cons]
  · rw [joinLater_append hp, Text.lines, Text.split_of_not_mem hp]
    simp

end LintReport.Report
