import LintReport.Proofs.Table.Columns
import LintReport.Proofs.Terminal.Painted
import LintReport.Report.Layout

/-!
# The rows of a report

A row is a position, a label, a message and a rule. Paint does not change the widths of the columns,
and a row with painted cells, once its position has been joined and painted too, shows the row with
plain cells.
-/

namespace LintReport

/-! ## Painted tables -/

namespace Table

open Terminal (Shows visibleLength)

theorem shows_spaces (n : Nat) : Shows (spaces n) (spaces n) := by
  apply Shows.of_not_control
  intro c hc
  rw [spaces, List.mem_replicate] at hc
  obtain ⟨-, rfl⟩ := hc
  decide

theorem shows_fill {painted plain : Text} (h : Shows painted plain) (alignment : Alignment)
    (gap : Nat) : Shows (fill alignment gap painted) (fill alignment gap plain) := by
  cases alignment with
  | left => exact h.append (shows_spaces gap)
  | right => exact (shows_spaces gap).append h
  | center => exact ((shows_spaces _).append h).append (shows_spaces _)

theorem shows_fillRow {painted plain : List Text} (h : List.Forall₂ Shows painted plain)
    (alignments : List Alignment) (widths : List Nat) :
    List.Forall₂ Shows (fillRow visibleLength alignments widths painted)
      (fillRow visibleLength alignments widths plain) := by
  induction h generalizing alignments widths with
  | nil =>
      cases widths <;> exact .nil
  | cons hfirst _ ih =>
      cases widths with
      | nil => exact .nil
      | cons width widths =>
          rw [fillRow, fillRow, hfirst.visibleLength_eq]
          exact .cons (shows_fill hfirst _ _) (ih _ _)

end Table

/-! ## Positions -/

namespace Report

open Terminal (Shows ShowsLines IsPlain visibleLength)

theorem takeWhile_append_of_head? {p : Char → Bool} {a b : Text} (ha : ∀ c ∈ a, p c = true)
    (hb : ∀ c, b.head? = some c → p c = false) :
    (a ++ b).takeWhile p = a ∧ (a ++ b).dropWhile p = b := by
  rw [List.takeWhile_append_of_pos ha, List.dropWhile_append_of_pos ha]
  cases b with
  | nil => simp
  | cons c b =>
      have hc : p c = false := hb c rfl
      simp [hc]

theorem natText_digits (n : Nat) : ∀ c ∈ Decimal.natText n, c.isDigit = true :=
  fun _ hc => Nat.isDigit_of_mem_toDigits (by decide) (by decide) hc

theorem natText_ne_nil (n : Nat) : Decimal.natText n ≠ [] :=
  Nat.toDigits_ne_nil

theorem isPlain_of_digits {t : Text} (h : ∀ c ∈ t, c.isDigit = true) : IsPlain t := by
  intro c hc
  have hdigit := h c hc
  refine ⟨Terminal.isControl_of_isDigit (Text.isDigit_of_ascii hdigit), ?_⟩
  rintro rfl
  exact absurd hdigit (by decide)

theorem joinPosition_cons_of_not_digit {c : Char} (hc : Text.isDigit c = false)
    (painter : Painter) (t : Text) :
    joinPosition painter (c :: t) = c :: joinPosition painter t := by
  rw [joinPosition]
  simp [hc]

/-- The numbers of a line that begins with two numbers, with spaces before and between, are joined.
-/
theorem joinPosition_eq (painter : Painter) {blanks : Text} (line column : Nat) {rest : Text}
    (hblanks : ∀ c ∈ blanks, c = ' ') (hrest : rest.head? = some ' ') :
    joinPosition painter (blanks ++ (Decimal.natText line ++ (Table.defaultSeparator ++
        (Decimal.natText column ++ rest)))) =
      blanks ++ (painter.paint .dim (Decimal.natText line ++ ':' :: Decimal.natText column) ++
        rest) := by
  induction blanks with
  | cons c blanks ih =>
      rw [List.forall_mem_cons] at hblanks
      obtain ⟨rfl, hblanks⟩ := hblanks
      rw [List.cons_append, joinPosition_cons_of_not_digit (by decide), ih hblanks,
        List.cons_append]
  | nil =>
      have hline : ∀ c ∈ Decimal.natText line, Text.isDigit c = true := fun c hc =>
        Text.isDigit_of_ascii (natText_digits line c hc)
      have hcolumn : ∀ c ∈ Decimal.natText column, Text.isDigit c = true := fun c hc =>
        Text.isDigit_of_ascii (natText_digits column c hc)
      -- the three cuts: after the line, after the spaces, after the column
      obtain ⟨hlineTake, hlineDrop⟩ := takeWhile_append_of_head? hline
        (b := Table.defaultSeparator ++ (Decimal.natText column ++ rest)) (by
          intro c hc
          obtain rfl := Option.some.inj hc
          decide)
      obtain ⟨-, hspacesDrop⟩ := takeWhile_append_of_head? (p := Text.isBlank)
        (a := Table.defaultSeparator) (b := Decimal.natText column ++ rest)
        (List.all_eq_true.mp (by decide)) (by
          intro c hc
          rw [List.head?_append_of_ne_nil _ (natText_ne_nil column)] at hc
          exact Text.isBlank_of_isDigit (hcolumn c (List.mem_of_head? hc)))
      obtain ⟨hcolumnTake, hcolumnDrop⟩ := takeWhile_append_of_head? hcolumn (b := rest) (by
        intro c hc
        obtain rfl := Option.some.inj (hrest.symm.trans hc)
        decide)
      have hshorter : (Decimal.natText column ++ rest).length <
          (Table.defaultSeparator ++ (Decimal.natText column ++ rest)).length := by
        show (Decimal.natText column ++ rest).length < (Decimal.natText column ++ rest).length + 1 + 1
        omega
      obtain ⟨c, tail, hcons⟩ := List.exists_cons_of_ne_nil (natText_ne_nil line)
      rw [List.nil_append, List.nil_append]
      generalize Decimal.natText line = lineText at *
      subst hcons
      rw [List.cons_append] at hlineTake hlineDrop ⊢
      rw [joinPosition]
      rw [hlineTake, hlineDrop, Text.trimStart, hspacesDrop, hcolumnTake, hcolumnDrop,
        if_pos ⟨List.cons_ne_nil c tail, hshorter, natText_ne_nil column⟩]

/-! ## Rows -/

/-- Two rows with the same position, in which painted cells show plain ones on one line each, and the
first of them, the label, is not blank. -/
inductive SameRow : List Text → List Text → Prop where
  | intro (line column : Nat) {label' label : Text} {cells' cells : List Text}
      (hlabel : Shows label' label) (hvisible : Text.trimEnd label ≠ [])
      (hcells : List.Forall₂ Shows cells' cells) (hplain : ∀ cell ∈ label :: cells, IsPlain cell) :
      SameRow ([] :: Decimal.natText line :: Decimal.natText column :: label' :: cells')
        ([] :: Decimal.natText line :: Decimal.natText column :: label :: cells)

namespace SameRow

variable {painted plain : List Text}

theorem forall₂_shows (h : SameRow painted plain) : List.Forall₂ Shows painted plain := by
  obtain ⟨line, column, hlabel, -, hcells, -⟩ := h
  have hnumber : ∀ n, Shows (Decimal.natText n) (Decimal.natText n) := fun n =>
    Shows.of_isPlain (isPlain_of_digits (natText_digits n))
  exact .cons .nil (.cons (hnumber line) (.cons (hnumber column) (.cons hlabel hcells)))

theorem not_mem_newline (h : SameRow painted plain) : ∀ cell ∈ plain, '\n' ∉ cell := by
  obtain ⟨line, column, -, -, -, hplain⟩ := h
  have hnumber : ∀ n, '\n' ∉ Decimal.natText n := fun n hmem =>
    (isPlain_of_digits (natText_digits n) _ hmem).2 rfl
  intro cell hcell hmem
  simp only [List.mem_cons] at hcell
  rcases hcell with rfl | rfl | rfl | hcell
  · simp at hmem
  · exact hnumber line hmem
  · exact hnumber column hmem
  · exact (hplain cell (List.mem_cons.mpr hcell) _ hmem).2 rfl

theorem not_mem_newline_painted (h : SameRow painted plain) : ∀ cell ∈ painted, '\n' ∉ cell := by
  have hplain := h.not_mem_newline
  have hshows := h.forall₂_shows
  clear h
  induction hshows with
  | nil => simp
  | cons hfirst _ ih =>
      rw [List.forall_mem_cons] at hplain ⊢
      exact ⟨fun hmem => hplain.1 (hfirst.mem_newline_iff.mp hmem), ih hplain.2⟩

theorem map_visibleLength (h : SameRow painted plain) :
    painted.map visibleLength = plain.map visibleLength := by
  have hshows := h.forall₂_shows
  clear h
  induction hshows with
  | nil => rfl
  | cons hfirst _ ih => rw [List.map_cons, List.map_cons, hfirst.visibleLength_eq, ih]

end SameRow

/-- The position of a row keeps its place when the end of the row is trimmed, if the cells after it
are not all blank. -/
theorem renderRow_eq {measure : Text → Nat} (line column : Text) {cells : List Text}
    (w0 w1 w2 : Nat) {widths : List Nat}
    (hvisible : Text.trimEnd (Text.join Table.defaultSeparator
      (Table.fillRow measure [] widths cells)) ≠ []) :
    Table.renderRow measure alignments Table.defaultSeparator (w0 :: w1 :: w2 :: widths)
        ([] :: line :: column :: cells) =
      Table.spaces (w0 - measure []) ++ Table.defaultSeparator ++ Table.spaces (w1 - measure line) ++
        (line ++ (Table.defaultSeparator ++ (column ++
          (Table.spaces (w2 - measure column) ++ Table.defaultSeparator ++
            Text.trimEnd (Text.join Table.defaultSeparator
              (Table.fillRow measure [] widths cells)))))) := by
  have hfill : Table.fillRow measure alignments (w0 :: w1 :: w2 :: widths)
      ([] :: line :: column :: cells) =
        Table.spaces (w0 - measure []) :: (Table.spaces (w1 - measure line) ++ line) ::
          (column ++ Table.spaces (w2 - measure column)) ::
            Table.fillRow measure [] widths cells := rfl
  have hjoin : ∀ a b c : Text, Text.join Table.defaultSeparator
      (a :: b :: c :: Table.fillRow measure [] widths cells) =
        a ++ Table.defaultSeparator ++ b ++ Table.defaultSeparator ++ c ++ Table.defaultSeparator ++
          Text.join Table.defaultSeparator (Table.fillRow measure [] widths cells) := by
    intro a b c
    cases hrest : Table.fillRow measure [] widths cells with
    | nil =>
        rw [hrest] at hvisible
        exact absurd rfl hvisible
    | cons first rest => simp [Text.join]
  rw [Table.renderRow, hfill, hjoin, Text.trimEnd_append_of_ne_nil _ hvisible]
  simp

theorem isPlain_separator : IsPlain Table.defaultSeparator := by
  decide

theorem shows_separator : Shows Table.defaultSeparator Table.defaultSeparator :=
  Shows.of_isPlain isPlain_separator

theorem trimEnd_cells_ne_nil (measure : Text → Nat) {label : Text}
    (hvisible : Text.trimEnd label ≠ []) (cells : List Text) (w : Nat) (widths : List Nat) :
    Text.trimEnd (Text.join Table.defaultSeparator
      (Table.fillRow measure [] (w :: widths) (label :: cells))) ≠ [] := by
  have hfill : Table.fillRow measure [] (w :: widths) (label :: cells) =
      (label ++ Table.spaces (w - measure label)) :: Table.fillRow measure [] widths cells := rfl
  rw [hfill]
  obtain ⟨rest, hrest⟩ := Text.exists_join_cons Table.defaultSeparator
    (label ++ Table.spaces (w - measure label)) (Table.fillRow measure [] widths cells)
  rw [hrest, List.append_assoc]
  exact Text.trimEnd_append_ne_nil hvisible _

theorem eq_space_of_mem {n m : Nat} {c : Char}
    (hc : c ∈ Table.spaces n ++ Table.defaultSeparator ++ Table.spaces m) : c = ' ' := by
  have hseparator : ∀ c ∈ Table.defaultSeparator, c = ' ' := by simp [Table.defaultSeparator]
  rw [List.mem_append, List.mem_append] at hc
  rcases hc with (hc | hc) | hc
  · exact (List.mem_replicate.mp hc).2
  · exact hseparator c hc
  · exact (List.mem_replicate.mp hc).2

theorem head?_spaces_separator (n : Nat) (t : Text) :
    (Table.spaces n ++ Table.defaultSeparator ++ t).head? = some ' ' := by
  cases n <;> rfl

theorem isPlain_of_spaces {t : Text} (h : ∀ c ∈ t, c = ' ') : IsPlain t := by
  intro c hc
  obtain rfl := h c hc
  decide

theorem isPlain_position (line column : Nat) :
    IsPlain (Decimal.natText line ++ ':' :: Decimal.natText column) := by
  intro c hc
  rw [List.mem_append, List.mem_cons] at hc
  rcases hc with hc | rfl | hc
  · exact isPlain_of_digits (natText_digits line) c hc
  · decide
  · exact isPlain_of_digits (natText_digits column) c hc

/-- Painting the position of a trimmed row and cells after it changes nothing that is seen. -/
theorem showsLines_of_parts {before position between painted plain : Text}
    (hbefore : IsPlain before) (hposition : IsPlain position) (hbetween : IsPlain between)
    (h : Shows painted plain) (hplain : '\n' ∉ plain) (painter : Painter) :
    ShowsLines (before ++ (painter.paint .dim position ++ (between ++ Text.trimEnd painted)))
      (before ++ (position ++ (between ++ Text.trimEnd plain))) := by
  obtain ⟨shown, hshown, htrim⟩ := h.trimEnd
  have hpaintedNewline : '\n' ∉ Text.trimEnd painted := fun hmem =>
    hplain (h.mem_newline_iff.mp (Text.mem_of_mem_dropEndWhile hmem))
  have hshownNewline : '\n' ∉ shown := fun hmem =>
    hpaintedNewline (hshown.mem_newline_iff.mpr hmem)
  have hplainNewline : '\n' ∉ Text.trimEnd plain := fun hmem =>
    hplain (Text.mem_of_mem_dropEndWhile hmem)
  have hnewline : ∀ {t : Text}, IsPlain t → '\n' ∉ t := fun ht hmem => (ht _ hmem).2 rfl
  refine ShowsLines.of_trimEnd (?_ : Shows _ (before ++ (position ++ (between ++ shown)))) ?_ ?_ ?_
  · exact (Shows.of_isPlain hbefore).append
      (((Shows.of_isPlain hposition).paint painter .dim).append
        ((Shows.of_isPlain hbetween).append hshown))
  · simp [hnewline hbefore, hnewline hposition, hnewline hbetween, hshownNewline]
  · simp [hnewline hbefore, hnewline hposition, hnewline hbetween, hplainNewline]
  · apply Text.dropEndWhile_append_congr
    apply Text.dropEndWhile_append_congr
    apply Text.dropEndWhile_append_congr
    exact htrim.trans (Text.dropEndWhile_dropEndWhile plain).symm

/-- Of two rows that are the same the first, once its position has been joined, shows the second. -/
theorem SameRow.showsLines {painted plain : List Text} (h : SameRow painted plain)
    {widths : List Nat} (hwidths : plain.length ≤ widths.length) :
    ShowsLines
      (joinPosition ⟨true⟩
        (Table.renderRow visibleLength alignments Table.defaultSeparator widths painted))
      (joinPosition ⟨false⟩
        (Table.renderRow visibleLength alignments Table.defaultSeparator widths plain)) := by
  obtain ⟨line, column, hlabel, hvisible, hcells, hplain⟩ := h
  rename_i label' label cells' cells
  -- three columns come before the label, so there are at least four widths
  rcases widths with _ | ⟨w0, _ | ⟨w1, _ | ⟨w2, _ | ⟨w3, widths⟩⟩⟩⟩
  case cons.cons.cons.cons =>
    have htailShows : Shows
        (Text.join Table.defaultSeparator
          (Table.fillRow visibleLength [] (w3 :: widths) (label' :: cells')))
        (Text.join Table.defaultSeparator
          (Table.fillRow visibleLength [] (w3 :: widths) (label :: cells))) :=
      Shows.join shows_separator (Table.shows_fillRow (.cons hlabel hcells) _ _)
    have htail := trimEnd_cells_ne_nil visibleLength hvisible cells w3 widths
    have hnewline : '\n' ∉ Text.join Table.defaultSeparator
        (Table.fillRow visibleLength [] (w3 :: widths) (label :: cells)) :=
      Text.not_mem_join (fun hmem => (isPlain_separator _ hmem).2 rfl)
        (Table.not_mem_fillRow (by decide)
          (fun cell hcell hmem => (hplain cell hcell _ hmem).2 rfl) [] (w3 :: widths))
    have htail' := htailShows.trimEnd_ne_nil htail
    rw [renderRow_eq _ _ w0 w1 w2 htail, renderRow_eq _ _ w0 w1 w2 htail',
      joinPosition_eq _ line column (fun _ => eq_space_of_mem) (head?_spaces_separator ..),
      joinPosition_eq _ line column (fun _ => eq_space_of_mem) (head?_spaces_separator ..)]
    exact showsLines_of_parts (isPlain_of_spaces fun _ => eq_space_of_mem)
      (isPlain_position line column) (isPlain_of_spaces fun _ hc => by
        rw [← List.append_nil (Table.spaces _ ++ Table.defaultSeparator)] at hc
        exact eq_space_of_mem (m := 0) hc) htailShows hnewline ⟨true⟩
  all_goals
    simp only [List.length_cons, List.length_nil] at hwidths
    omega

end Report

end LintReport
