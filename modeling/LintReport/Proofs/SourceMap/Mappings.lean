import LintReport.Proofs.SourceMap.Vlq
import LintReport.Proofs.Text.Split
import LintReport.SourceMap.Mappings

/-!
# Mappings that were written

The standard form of mappings reads back as these mappings, in the order of their columns. Text and
segments are taken apart from segments and mappings, as in reading and in writing: no separator
stands in the text of a segment, and adding up the differences to the totals before a mapping leads
to the totals after it.
-/

namespace LintReport

theorem Segment.ofFields?_fields (s : Segment) : Segment.ofFields? s.fields = some s := by
  obtain ⟨column, place⟩ := s
  cases place with
  | none => rfl
  | some p =>
      obtain ⟨source, line, sourceColumn, name⟩ := p
      cases name <;> rfl

theorem Segment.fields_ne_nil (s : Segment) : s.fields ≠ [] := by
  unfold Segment.fields
  split <;> simp

namespace Mappings

/-! ## Text and segments -/

def writeSegment (s : Segment) : Text :=
  Vlq.encode s.fields

theorem readSegment_writeSegment (s : Segment) : readSegment (writeSegment s) = .ok s := by
  unfold readSegment writeSegment
  rw [Vlq.decode_encode]
  dsimp only
  rw [Segment.ofFields?_fields]

theorem readSegments_map_writeSegment (segments : List Segment) :
    readSegments (segments.map writeSegment) = .ok segments := by
  induction segments with
  | nil => rfl
  | cons s segments ih =>
      rw [List.map_cons, readSegments, readSegment_writeSegment, ih]
      rfl

theorem writeSegment_ne_nil (s : Segment) : writeSegment s ≠ [] :=
  Vlq.encode_ne_nil (Segment.fields_ne_nil s)

theorem not_mem_writeSegment {c : Char} (h : Base64.digit? c = none) (s : Segment) :
    c ∉ writeSegment s := by
  intro hmem
  have hdigit := Vlq.isSome_digit?_of_mem_encode hmem
  rw [h] at hdigit
  exact absurd hdigit (by simp)

def writeLine (segments : List Segment) : Text :=
  Text.join [','] (segments.map writeSegment)

theorem segmentTexts_writeLine (segments : List Segment) :
    segmentTexts (writeLine segments) = segments.map writeSegment := by
  unfold segmentTexts writeLine
  cases segments with
  | nil => rfl
  | cons s rest =>
      rw [Text.split_join (by simp)]
      · apply List.filter_eq_self.mpr
        intro t ht
        obtain ⟨segment, -, rfl⟩ := List.mem_map.mp ht
        simpa using writeSegment_ne_nil segment
      · intro t ht
        obtain ⟨segment, -, rfl⟩ := List.mem_map.mp ht
        exact not_mem_writeSegment (by decide) segment

theorem readLines_map_writeLine (lines : List (List Segment)) :
    readLines (lines.map writeLine) = .ok lines := by
  induction lines with
  | nil => rfl
  | cons segments rest ih =>
      rw [List.map_cons, readLines, segmentTexts_writeLine, readSegments_map_writeSegment, ih]
      rfl

theorem read_write {lines : List (List Segment)} (hne : lines ≠ []) :
    read (write lines) = .ok lines := by
  have hwrite : write lines = Text.join [';'] (lines.map writeLine) := rfl
  have hclean : ∀ t ∈ lines.map writeLine, ';' ∉ t := by
    intro t ht
    obtain ⟨segments, -, rfl⟩ := List.mem_map.mp ht
    apply Text.not_mem_join (by decide)
    intro piece hpiece
    obtain ⟨s, -, rfl⟩ := List.mem_map.mp hpiece
    exact not_mem_writeSegment (by decide) s
  rw [read, hwrite, Text.split_join (by simpa using hne) hclean, readLines_map_writeLine]

/-! ## Segments and mappings -/

theorem Totals.add_differences (t : Totals) (p : Place) : t.add (t.differences p) = t.moveTo p := by
  obtain ⟨source, line, column, name⟩ := p
  cases name <;>
    simp only [Totals.add, Totals.differences, Totals.moveTo, Option.map_none, Option.map_some,
      Option.getD_none, Option.getD_some, Totals.mk.injEq] <;>
    omega

theorem Totals.place_moveTo (t : Totals) (p : Place) :
    (t.moveTo p).place (t.differences p).name.isSome = p := by
  obtain ⟨source, line, column, name⟩ := p
  cases name <;> simp [Totals.place, Totals.moveTo, Totals.differences]

/-- The mappings of a line with the number of the line in each. -/
def numberedLine (line : Nat) (mappings : List Mapping) : List Mapping :=
  mappings.map fun m => { m with generatedLine := line }

/-- The mappings of the lines from the one of the given number on, with the number of its line in
each. -/
def numbered (line : Nat) : List (List Mapping) → List (List Mapping)
  | [] => []
  | mappings :: rest => numberedLine line mappings :: numbered (line + 1) rest

theorem sumLine_differLine (line : Nat) (totals : Totals) (column : Int) (mappings : List Mapping) :
    sumLine line totals column (differLine totals column mappings).1 =
      (numberedLine line mappings, (differLine totals column mappings).2) := by
  induction mappings generalizing totals column with
  | nil => rfl
  | cons m rest ih =>
      obtain ⟨generatedLine, generatedColumn, place⟩ := m
      have hcolumn : column + (generatedColumn - column) = generatedColumn := by omega
      cases place with
      | none =>
          simp only [differLine, sumLine, hcolumn, ih]
          rfl
      | some p =>
          simp only [differLine, sumLine, hcolumn, Totals.add_differences, Totals.place_moveTo, ih]
          rfl

theorem sumLines_differLines (line : Nat) (totals : Totals) (lines : List (List Mapping)) :
    sumLines line totals (differLines totals lines) = numbered line lines := by
  induction lines generalizing line totals with
  | nil => rfl
  | cons mappings rest ih =>
      simp only [differLines, sumLines, sumLine_differLine, ih]
      rfl

theorem differLines_ne_nil {totals : Totals} {lines : List (List Mapping)} (hne : lines ≠ []) :
    differLines totals lines ≠ [] := by
  obtain ⟨mappings, rest, rfl⟩ := List.exists_cons_of_ne_nil hne
  simp [differLines]

/-- What was written is read back, with the mappings of each line in the order of their columns. -/
theorem parse_encode {lines : List (List Mapping)} (hne : lines ≠ []) :
    parse (encode lines) = .ok ((numbered 1 lines).map sortLine) := by
  rw [parse, encode, read_write (differLines_ne_nil hne), Except.map, sumLines_differLines]

end Mappings

end LintReport
