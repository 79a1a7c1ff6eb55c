import LintReport.Proofs.Table.Columns
import LintReport.Proofs.Terminal.Visible

/-!
# What is visible of a table

A table of cells that hold control sequences, laid out by what is visible of them, shows the table of
what is visible. No control sequence goes on from a cell into the spaces around it, nor from there
into the next cell, however the sequences in the cells are broken.
-/

namespace LintReport.Table

open Terminal (visible visibleLength)

theorem isBlank_of_mem_spaces {n : Nat} {c : Char} (h : c ∈ spaces n) : Text.isBlank c = true := by
  rw [spaces, List.mem_replicate] at h
  rw [h.2]
  decide

theorem visible_fill (alignment : Alignment) (gap : Nat) (cell : Text) :
    visible (fill alignment gap cell) = fill alignment gap (visible cell) := by
  have hafter : ∀ (n : Nat) (t : Text), visible (t ++ spaces n) = visible t ++ spaces n := by
    intro n t
    apply Terminal.visible_append_of_blank
    intro c hc
    exact isBlank_of_mem_spaces hc
  have hbefore : ∀ (n : Nat) (t : Text), visible (spaces n ++ t) = spaces n ++ visible t := by
    intro n t
    apply Terminal.visible_of_not_control_append
    intro c hc
    exact Terminal.isControl_of_isBlank (isBlank_of_mem_spaces hc)
  cases alignment with
  | left => exact hafter gap cell
  | right => exact hbefore gap cell
  | center => rw [fill, fill, hafter, hbefore]

theorem map_visible_fillRow (alignments : List Alignment) (widths : List Nat) (row : List Text) :
    (fillRow visibleLength alignments widths row).map visible =
      fillRow List.length alignments widths (row.map visible) := by
  induction row generalizing alignments widths with
  | nil => cases widths <;> rfl
  | cons cell row ih =>
      cases widths with
      | nil => rfl
      | cons width widths =>
          rw [fillRow, List.map_cons, List.map_cons, fillRow, visible_fill, ih]
          rfl

theorem visible_join (cells : List Text) :
    visible (Text.join defaultSeparator cells) = Text.join defaultSeparator (cells.map visible) := by
  induction cells with
  | nil => rw [Text.join, visible]; rfl
  | cons cell cells ih =>
      cases cells with
      | nil => rfl
      | cons next cells =>
          have hseparator : ∀ c ∈ defaultSeparator, Text.isBlank c = true :=
            List.all_eq_true.mp (by decide)
          have hapart : Terminal.Apart cell
              (defaultSeparator ++ Text.join defaultSeparator (next :: cells)) := by
            apply Terminal.apart_of_isBlank
            intro c hc
            rw [List.head?_append_of_ne_nil _ (by decide)] at hc
            exact hseparator c (List.mem_of_head? hc)
          have hplain : ∀ c ∈ defaultSeparator, Terminal.isControl c = false := by
            intro c hc
            exact Terminal.isControl_of_isBlank (hseparator c hc)
          rw [Text.join, List.append_assoc, Terminal.visible_append hapart,
            Terminal.visible_of_not_control_append hplain, ih]
          exact (List.append_assoc ..).symm

theorem widths_visible (rows : List (List Text)) :
    widths visibleLength rows = widths List.length (rows.map fun row => row.map visible) := by
  induction rows with
  | nil => rfl
  | cons row rows ih =>
      rw [List.map_cons, widths, widths, ih, List.map_map]
      rfl

/-- A row with control sequences shows the row of what is visible of its cells. -/
theorem trimEnd_visible_renderRow (alignments : List Alignment) (widths : List Nat)
    (row : List Text) :
    Text.trimEnd (visible (renderRow visibleLength alignments defaultSeparator widths row)) =
      renderRow List.length alignments defaultSeparator widths (row.map visible) := by
  rw [renderRow, Terminal.trimEnd_visible_trimEnd, visible_join, map_visible_fillRow, renderRow]

/-- Line by line, a table laid out by what is visible of its cells shows the table of what is
visible. -/
theorem trimEnd_visible_lines_render {rows : List (List Text)}
    (h : ∀ row ∈ rows, ∀ cell ∈ row, '\n' ∉ cell) (alignments : List Alignment) :
    (Text.lines (render visibleLength alignments defaultSeparator rows)).map
        (fun line => Text.trimEnd (visible line)) =
      Text.lines (render List.length alignments defaultSeparator
        (rows.map fun row => row.map visible)) := by
  cases rows with
  | nil => simp [render, Text.join, Text.lines, Text.split, visible, Text.trimEnd, Text.dropEndWhile]
  | cons row rows =>
      have hvisible : ∀ row' ∈ (row :: rows).map fun row => row.map visible,
          ∀ cell ∈ row', '\n' ∉ cell := by
        simp only [List.forall_mem_map]
        intro row hrow cell hcell hmem
        exact h row hrow cell hcell (Terminal.mem_of_mem_visible hmem)
      rw [lines_render (List.cons_ne_nil row rows) h, lines_render (by simp) hvisible,
        List.map_map, List.map_map, ← widths_visible]
      apply List.map_congr_left
      intro row' _
      exact trimEnd_visible_renderRow alignments _ row'

/-- Rows of two and of three cells. Sequences are cut off at the ends of cells, where the next cell
begins with what is missing. -/
def cutCells : List (List Text) := [
  ["\x1b[31mred\x1b[39m", "b\x1b[3"], ["\x1b[", "\x02\x01", "4m"]]

theorem trimEnd_visible_lines_render_cutCells :
    (∀ row ∈ cutCells, ∀ cell ∈ row, '\n' ∉ cell) ∧
      (Text.lines (render visibleLength [.center, .right] defaultSeparator cutCells)).map
          (fun line => Text.trimEnd (visible line)) =
        ["red  b\x1b[3".toList, "\x1b[     \x02\x01  4m".toList] := by
  have h : ∀ row ∈ cutCells, ∀ cell ∈ row, '\n' ∉ cell := by decide
  exact ⟨h, (trimEnd_visible_lines_render h [.center, .right]).trans (by decide +kernel)⟩

end LintReport.Table
