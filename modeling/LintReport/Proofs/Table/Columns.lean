import LintReport.Proofs.Text.Split
import LintReport.Proofs.Text.Trim
import LintReport.Table
import Mathlib.Data.List.Forall2

/-!
# Columns

A column is as wide as the widest of its cells, in all rows that reach it, and each cell is filled up
to that width on the side that the hint of its column names. So a column starts at the same place in
every row that has it.
-/

namespace LintReport.Table

variable {measure : Text → Nat}

theorem maxWidths_length (as bs : List Nat) :
    (maxWidths as bs).length = max as.length bs.length := by
  induction as generalizing bs with
  | nil => simp [maxWidths]
  | cons a as ih =>
      cases bs with
      | nil => simp [maxWidths]
      | cons b bs =>
          rw [maxWidths, List.length_cons, List.length_cons, List.length_cons, ih]
          omega

/-- There is a column for each cell of each row. -/
theorem length_le_widths {row : List Text} {rows : List (List Text)} (h : row ∈ rows) :
    row.length ≤ (widths measure rows).length := by
  induction rows with
  | nil => simp at h
  | cons first rest ih =>
      rw [widths, maxWidths_length, List.length_map]
      rcases List.mem_cons.mp h with rfl | h
      · exact Nat.le_max_left ..
      · exact Nat.le_trans (ih h) (Nat.le_max_right ..)

theorem widths_congr {rows rows' : List (List Text)}
    (h : List.Forall₂ (fun row row' => row.map measure = row'.map measure) rows rows') :
    widths measure rows = widths measure rows' := by
  induction h with
  | nil => rfl
  | cons hfirst _ ih => rw [widths, widths, hfirst, ih]

/-- The widths of the cells of a column, from the rows that reach it. -/
def cellWidths (measure : Text → Nat) (rows : List (List Text)) (j : Nat) : List Nat :=
  rows.filterMap fun row => row[j]?.map measure

theorem getElem?_maxWidths (as bs : List Nat) (j : Nat) :
    (maxWidths as bs)[j]? = Option.merge max as[j]? bs[j]? := by
  induction as generalizing bs j with
  | nil => cases h : bs[j]? <;> simp [maxWidths, h]
  | cons a as ih =>
      cases bs with
      | nil => cases h : (a :: as)[j]? <;> simp [maxWidths, h]
      | cons b bs =>
          cases j with
          | zero => rfl
          | succ j => exact ih bs j

/-- A column is as wide as its widest cell. -/
theorem getElem?_widths (rows : List (List Text)) (j : Nat) :
    (widths measure rows)[j]? = (cellWidths measure rows j).max? := by
  induction rows with
  | nil => rfl
  | cons row rows ih =>
      rw [widths, getElem?_maxWidths, ih, List.getElem?_map]
      cases hcell : row[j]? with
      | none => simp [cellWidths, hcell]
      | some cell =>
          have hcons : cellWidths measure (row :: rows) j =
              measure cell :: cellWidths measure rows j := by
            simp [cellWidths, hcell]
          rw [hcons, List.max?_cons]
          cases (cellWidths measure rows j).max? <;> rfl

theorem le_of_getElem?_widths {rows : List (List Text)} {row : List Text} (hrow : row ∈ rows)
    {j width : Nat} {cell : Text} (hcell : row[j]? = some cell)
    (hwidth : (widths measure rows)[j]? = some width) : measure cell ≤ width := by
  rw [getElem?_widths] at hwidth
  refine (List.max?_eq_some_iff.mp hwidth).2 _ (List.mem_filterMap.mpr ⟨row, hrow, ?_⟩)
  rw [hcell, Option.map_some]

/-! ## Fields -/

@[simp] theorem length_spaces (n : Nat) : (spaces n).length = n :=
  List.length_replicate

theorem length_fill (alignment : Alignment) (gap : Nat) (cell : Text) :
    (fill alignment gap cell).length = cell.length + gap := by
  cases alignment <;> simp only [fill, List.length_append, length_spaces] <;> omega

theorem length_fillRow {row : List Text} {widths : List Nat} (h : row.length ≤ widths.length)
    (alignments : List Alignment) :
    (fillRow measure alignments widths row).length = row.length := by
  induction row generalizing alignments widths with
  | nil => cases widths <;> rfl
  | cons cell row ih =>
      cases widths with
      | nil => cases h
      | cons width widths =>
          rw [fillRow, List.length_cons, List.length_cons, ih (Nat.le_of_succ_le_succ h)]

theorem getElem?_fillRow {row : List Text} {widths : List Nat} {j width : Nat} {cell : Text}
    (hcell : row[j]? = some cell) (hwidth : widths[j]? = some width)
    (alignments : List Alignment) :
    (fillRow measure alignments widths row)[j]? =
      some (fill (alignments[j]?.getD .left) (width - measure cell) cell) := by
  induction row generalizing alignments widths j with
  | nil => cases hcell
  | cons first row ih =>
      cases widths with
      | nil => cases hwidth
      | cons firstWidth widths =>
          cases j with
          | zero =>
              obtain rfl := Option.some.inj hcell
              obtain rfl := Option.some.inj hwidth
              rw [fillRow, List.head?_eq_getElem?]
              rfl
          | succ j =>
              rw [fillRow, List.getElem?_cons_succ, ih hcell hwidth, List.getElem?_tail]

theorem not_mem_fill {c : Char} (hc : c ≠ ' ') {cell : Text} (h : c ∉ cell)
    (alignment : Alignment) (gap : Nat) : c ∉ fill alignment gap cell := by
  have hspaces : ∀ n, c ∉ spaces n := by
    intro n hmem
    rw [spaces, List.mem_replicate] at hmem
    exact hc hmem.2
  cases alignment <;> simp [fill, h, hspaces]

theorem not_mem_fillRow {c : Char} (hc : c ≠ ' ') {row : List Text} (h : ∀ cell ∈ row, c ∉ cell)
    (alignments : List Alignment) (widths : List Nat) :
    ∀ cell ∈ fillRow measure alignments widths row, c ∉ cell := by
  induction row generalizing alignments widths with
  | nil => cases widths <;> simp [fillRow]
  | cons cell row ih =>
      rw [List.forall_mem_cons] at h
      cases widths with
      | nil => simp [fillRow]
      | cons width widths =>
          rw [fillRow, List.forall_mem_cons]
          exact ⟨not_mem_fill hc h.1 _ _, ih h.2 _ _⟩

theorem not_mem_renderRow {c : Char} (hc : c ≠ ' ') {row : List Text} (h : ∀ cell ∈ row, c ∉ cell)
    (alignments : List Alignment) (widths : List Nat) :
    c ∉ renderRow measure alignments defaultSeparator widths row := by
  intro hmem
  have hseparator : c ∉ defaultSeparator := by
    rw [show defaultSeparator = [' ', ' '] from rfl]
    simp [hc]
  exact Text.not_mem_join hseparator (not_mem_fillRow hc h alignments widths)
    (Text.mem_of_mem_dropEndWhile hmem)

/-- The table of rows without line breaks has one line for each row. -/
theorem lines_render {rows : List (List Text)} (hne : rows ≠ [])
    (h : ∀ row ∈ rows, ∀ cell ∈ row, '\n' ∉ cell) (alignments : List Alignment) :
    Text.lines (render measure alignments defaultSeparator rows) =
      rows.map (renderRow measure alignments defaultSeparator (widths measure rows)) := by
  refine Text.split_join (fun hnil => hne (List.map_eq_nil_iff.mp hnil)) ?_
  intro line hline
  obtain ⟨row, hrow, rfl⟩ := List.mem_map.mp hline
  exact not_mem_renderRow (by decide) (h row hrow) alignments _

/-! ## The layout of a table -/

/-- A cell in a field of its column: what is missing to the width of the column follows the cell,
precedes it, or stands on both sides with the greater part behind. -/
structure IsField (hint : Option Text) (width : Nat) (cell field : Text) : Prop where
  length_eq : field.length = width
  right : hint = some ['r'] → field = spaces (width - cell.length) ++ cell
  center : hint = some ['c'] → field = spaces ((width - cell.length) / 2) ++ cell ++
    spaces (width - cell.length - (width - cell.length) / 2)
  left : hint ≠ some ['r'] → hint ≠ some ['c'] → field = cell ++ spaces (width - cell.length)

/-- The fields of a row of a table. Each is as wide as the longest cell of its column. -/
structure IsLine (hints : List Text) (rows : List (List Text)) (row fields : List Text) : Prop where
  length_eq : fields.length = row.length
  exists_field : ∀ {j : Nat} {cell : Text}, row[j]? = some cell → ∃ field, fields[j]? = some field ∧
    ∃ width, (cellWidths List.length rows j).max? = some width ∧
      IsField hints[j]? width cell field

theorem isField_fill (hint : Option Text) {width : Nat} {cell : Text} (h : cell.length ≤ width) :
    IsField hint width cell
      (fill ((hint.map Alignment.ofHint).getD .left) (width - cell.length) cell) where
  length_eq := by
    rw [length_fill]
    omega
  right hhint := by
    rw [hhint]
    rfl
  center hhint := by
    rw [hhint]
    rfl
  left hright hcenter := by
    cases hint with
    | none => rfl
    | some hint =>
        have hr : hint ≠ ['r'] := fun heq => hright (congrArg some heq)
        have hc : hint ≠ ['c'] := fun heq => hcenter (congrArg some heq)
        rw [Option.map_some, Option.getD_some, Alignment.ofHint, if_neg hr, if_neg hc]
        rfl

/-- There is a width for each cell of each row. -/
theorem exists_getElem?_widths {rows : List (List Text)} {row : List Text} (hrow : row ∈ rows)
    {j : Nat} {cell : Text} (hcell : row[j]? = some cell) :
    ∃ width, (widths measure rows)[j]? = some width ∧ measure cell ≤ width := by
  have hj : j < (widths measure rows).length :=
    Nat.lt_of_lt_of_le (List.getElem?_eq_some_iff.mp hcell).1 (length_le_widths hrow)
  have hwidth := List.getElem?_eq_getElem hj
  exact ⟨_, hwidth, le_of_getElem?_widths hrow hcell hwidth⟩

theorem isLine_fillRow (hints : List Text) {rows : List (List Text)} {row : List Text}
    (hrow : row ∈ rows) :
    IsLine hints rows row (fillRow List.length (hints.map Alignment.ofHint)
      (widths List.length rows) row) where
  length_eq := length_fillRow (length_le_widths hrow) _
  exists_field {j cell} hcell := by
    obtain ⟨width, hwidth, hle⟩ := exists_getElem?_widths hrow hcell
    refine ⟨_, getElem?_fillRow hcell hwidth _, width, getElem?_widths rows j ▸ hwidth, ?_⟩
    rw [List.getElem?_map]
    exact isField_fill hints[j]? hle

/-- The lengths of the fields of a line are the widths of the columns, as far as the line goes. -/
theorem take_map_length_fillRow (alignments : List Alignment) {rows : List (List Text)}
    {row : List Text} (hrow : row ∈ rows) {j : Nat} (hj : j < row.length) :
    ((fillRow List.length alignments (widths List.length rows) row).map List.length).take j =
      (widths List.length rows).take j := by
  apply List.ext_getElem?
  intro i
  by_cases hi : i < j
  · have hcell := List.getElem?_eq_getElem (Nat.lt_trans hi hj)
    obtain ⟨width, hwidth, hle⟩ := exists_getElem?_widths hrow hcell
    rw [List.getElem?_take_of_lt hi, List.getElem?_take_of_lt hi, List.getElem?_map,
      getElem?_fillRow hcell hwidth, hwidth, Option.map_some, length_fill,
      Nat.add_sub_cancel' hle]
  · rw [List.getElem?_take_eq_none (by omega), List.getElem?_take_eq_none (by omega)]

/-- Each line of a table is made of fields, one for each cell of its row. The blanks that it ends
with are cut off, and nothing else. Before that a column starts at the same place in all lines that
reach it. -/
theorem render_eq_lines (hints : List Text) (separator : Text) (rows : List (List Text)) :
    ∃ lines : List (List Text), List.Forall₂ (IsLine hints rows) rows lines ∧
      render List.length (hints.map Alignment.ofHint) separator rows =
        Text.join ['\n'] (lines.map fun line => Text.trimEnd (Text.join separator line)) ∧
      (∀ line ∈ lines, ∀ kept : Text, Text.trimEnd (Text.join separator line) = kept ↔
        (∃ blanks : Text, kept ++ blanks = Text.join separator line ∧
          ∀ c ∈ blanks, Text.isBlank c = true) ∧
          ∀ c, kept.getLast? = some c → Text.isBlank c = false) ∧
      ∀ j, ∃ start, ∀ line ∈ lines, j < line.length → ∃ before : Text, before.length = start ∧
        before ++ Text.join separator (line.drop j) = Text.join separator line := by
  refine ⟨rows.map (fillRow List.length (hints.map Alignment.ofHint) (widths List.length rows)),
    ?_, ?_, fun line _ kept => Text.trimEnd_eq_iff, ?_⟩
  · rw [List.forall₂_map_right_iff, List.forall₂_same]
    exact fun row hrow => isLine_fillRow hints hrow
  · rw [List.map_map]
    rfl
  · intro j
    refine ⟨((widths List.length rows).take j).sum + j * separator.length, ?_⟩
    intro line hline hj
    obtain ⟨row, hrow, rfl⟩ := List.mem_map.mp hline
    obtain ⟨before, hlength, hjoin⟩ := Text.exists_join_drop separator hj
    rw [length_fillRow (length_le_widths hrow)] at hj
    rw [List.length_flatten, List.map_take, take_map_length_fillRow _ hrow hj] at hlength
    exact ⟨before, hlength, hjoin⟩

example : render List.length [.right, .center] ['|'] [["1", "ab"], ["22", "abcde", "x"]] =
    " 1| ab\n22|abcde|x".toList := by decide

end LintReport.Table
