import LintReport.Proofs.SourceMap.Mappings
import LintReport.Proofs.SourceMap.Nearest

/-!
# The standard form of mappings

For each field of a segment the format names the earlier mapping to which the field is the
difference. Said like this the standard form needs no running totals: the fields of a mapping depend
on it and on all mappings that stand before it in the text. The totals that are kept in writing are
those of the mappings so far, so what is written is this text, and it reads back as the mappings,
each line sorted by its columns.
-/

namespace LintReport.Mappings

/-! ## Fields without totals -/

/-- The last place that mappings lead to; before the first it is the start of the first source. -/
def lastPlace (before : List Mapping) : Place :=
  (before.filterMap Mapping.place).getLast?.getD ⟨0, 1, 0, none⟩

/-- The last name that mappings lead to, or zero. -/
def lastName (before : List Mapping) : Int :=
  (before.filterMap fun m => m.place.bind Place.name).getLast?.getD 0

/-- The column of the last mapping of a line, or zero. -/
def lastColumn (line : List Mapping) : Int :=
  (line.map Mapping.generatedColumn).getLast?.getD 0

/-- The fields of a mapping, where `above` are the mappings of the lines above it and `line` those
that stand before it in its own line. -/
def standardFields (above line : List Mapping) (m : Mapping) : List Int :=
  let column := m.generatedColumn - lastColumn line
  match m.place with
  | none => [column]
  | some p =>
    let last := lastPlace (above ++ line)
    [column, p.source - last.source, p.line - last.line, p.column - last.column] ++
      (p.name.map (· - lastName (above ++ line))).toList

def standardLine (above line : List Mapping) : Text :=
  Text.join [','] ((line.mapIdx fun i m => standardFields above (line.take i) m).map Vlq.encode)

def standardText (lines : List (List Mapping)) : Text :=
  Text.join [';'] (lines.mapIdx fun i line => standardLine (lines.take i).flatten line)

/-! ## Totals of the mappings so far -/

def Totals.after (before : List Mapping) : Totals :=
  ⟨(lastPlace before).source, (lastPlace before).line - 1, (lastPlace before).column,
    lastName before⟩

def Totals.past (t : Totals) (m : Mapping) : Totals :=
  match m.place with
  | none => t
  | some p => t.moveTo p

theorem Totals.after_concat (before : List Mapping) (m : Mapping) :
    Totals.after (before ++ [m]) = (Totals.after before).past m := by
  unfold Totals.after Totals.past lastPlace lastName
  rw [List.filterMap_append, List.filterMap_append]
  cases hplace : m.place with
  | none => simp [hplace]
  | some p => cases hname : p.name <;> simp [hplace, hname, Totals.moveTo]

theorem lastColumn_concat (line : List Mapping) (m : Mapping) :
    lastColumn (line ++ [m]) = m.generatedColumn := by
  simp [lastColumn]

theorem differLine_cons (totals : Totals) (column : Int) (m : Mapping) (rest : List Mapping) :
    differLine totals column (m :: rest) =
      (⟨m.generatedColumn - column, m.place.map totals.differences⟩ ::
          (differLine (totals.past m) m.generatedColumn rest).1,
        (differLine (totals.past m) m.generatedColumn rest).2) := by
  unfold Totals.past
  rw [differLine]
  cases m.place <;> rfl

theorem fields_differences (above line : List Mapping) (m : Mapping) :
    Segment.fields ⟨m.generatedColumn - lastColumn line,
        m.place.map (Totals.after (above ++ line)).differences⟩ =
      standardFields above line m := by
  unfold Segment.fields standardFields
  cases m.place with
  | none => rfl
  | some p =>
      have hline : p.line - 1 - ((lastPlace (above ++ line)).line - 1) =
          p.line - (lastPlace (above ++ line)).line := by omega
      simp only [Option.map_some, Totals.differences, Totals.after, hline, List.cons_append,
        List.nil_append]

/-- In writing a line, the totals before each of its mappings are those of the mappings so far. -/
theorem differLine_after (above line rest : List Mapping) :
    (differLine (Totals.after (above ++ line)) (lastColumn line) rest).1.map Segment.fields =
        (rest.mapIdx fun i m => standardFields above (line ++ rest.take i) m) ∧
      (differLine (Totals.after (above ++ line)) (lastColumn line) rest).2 =
        Totals.after (above ++ line ++ rest) := by
  induction rest generalizing line with
  | nil =>
      rw [List.append_nil]
      exact ⟨rfl, rfl⟩
  | cons m rest ih =>
      obtain ⟨hfields, hafter⟩ := ih (line ++ [m])
      rw [lastColumn_concat, ← List.append_assoc, Totals.after_concat] at hfields hafter
      rw [differLine_cons, List.mapIdx_cons]
      constructor
      · rw [List.map_cons, fields_differences, hfields]
        simp
      · rw [hafter]
        simp

/-- In writing the lines, the totals before each of them are those of the lines above. -/
theorem map_differLines_after (above lines : List (List Mapping)) :
    (differLines (Totals.after above.flatten) lines).map
        (fun segments => Text.join [','] (segments.map fun s => Vlq.encode s.fields)) =
      lines.mapIdx fun i line => standardLine (above ++ lines.take i).flatten line := by
  induction lines generalizing above with
  | nil => rfl
  | cons line rest ih =>
      obtain ⟨hfields, hafter⟩ := differLine_after above.flatten [] line
      have hcolumn : lastColumn [] = 0 := rfl
      rw [List.append_nil, hcolumn] at hfields hafter
      have hflatten : above.flatten ++ line = (above ++ [line]).flatten := by simp
      have hline : Text.join [','] ((differLine (Totals.after above.flatten) 0 line).1.map
          fun s => Vlq.encode s.fields) = standardLine above.flatten line := by
        have hencode := congrArg (List.map Vlq.encode) hfields
        rw [List.map_map] at hencode
        exact congrArg (Text.join [',']) hencode
      rw [differLines, List.map_cons, List.mapIdx_cons, hline, hafter, hflatten, ih]
      simp

/-- What is written with running totals is the standard form. -/
theorem encode_eq_standardText (lines : List (List Mapping)) :
    encode lines = standardText lines := by
  have hlines := map_differLines_after [] lines
  have hstart : Totals.after [] = .zero := rfl
  rw [List.flatten_nil, hstart] at hlines
  exact congrArg (Text.join [';']) hlines

/-! ## Reading the standard form -/

theorem numberedLine_of_forall {line : Nat} {mappings : List Mapping}
    (h : ∀ m ∈ mappings, m.generatedLine = line) : numberedLine line mappings = mappings := by
  unfold numberedLine
  conv => rhs; rw [← List.map_id mappings]
  apply List.map_congr_left
  intro m hm
  rw [← h m hm]
  rfl

theorem numbered_of_forall {first : Nat} {lines : List (List Mapping)}
    (h : ∀ i line, lines[i]? = some line → ∀ m ∈ line, m.generatedLine = first + i) :
    numbered first lines = lines := by
  induction lines generalizing first with
  | nil => rfl
  | cons mappings rest ih =>
      have hfirst : ∀ m ∈ mappings, m.generatedLine = first := h 0 mappings rfl
      have hrest : ∀ i line, rest[i]? = some line →
          ∀ m ∈ line, m.generatedLine = first + 1 + i := by
        intro i line hi m hm
        rw [h (i + 1) line hi m hm]
        omega
      rw [numbered, numberedLine_of_forall hfirst, ih hrest]

/-- That `sorted` is a line of mappings in the order of their columns, those of the same column in
the order in which they stand in the line. -/
structure SortedStably (mappings sorted : List Mapping) : Prop where
  perm : sorted.Perm mappings
  ascending : sorted.Pairwise fun a b => a.generatedColumn ≤ b.generatedColumn
  stable : ∀ column, (sorted.filter fun m => m.generatedColumn = column) =
    mappings.filter fun m => m.generatedColumn = column

theorem sortedStably_sortLine (mappings : List Mapping) :
    SortedStably mappings (sortLine mappings) where
  perm := List.mergeSort_perm ..
  ascending := SourceMap.pairwise_sortLine mappings
  stable := SourceMap.filter_sortLine mappings

/-- The standard form of lines reads back as these lines, each sorted stably by its columns,
whatever integers stand in them and whether or not they have places and names. -/
theorem parse_standardText {lines : List (List Mapping)} (hne : lines ≠ [])
    (hnumbers : ∀ i line, lines[i]? = some line → ∀ m ∈ line, m.generatedLine = i + 1) :
    parse (standardText lines) = .ok (lines.map sortLine) ∧
      ∀ line ∈ lines, SortedStably line (sortLine line) := by
  have hnumbered : numbered 1 lines = lines := by
    apply numbered_of_forall
    intro i line hi m hm
    rw [hnumbers i line hi m hm, Nat.add_comm]
  constructor
  · rw [← encode_eq_standardText, parse_encode hne, hnumbered]
  · intro line _
    exact sortedStably_sortLine line

/-- Lines with all kinds of mappings: one that stands left of the mapping before it, one without a
place, and one whose name is that of an earlier line. -/
def mixedLines : List (List Mapping) := [
  [⟨1, 9, some ⟨2, 7, 4, some 5⟩⟩, ⟨1, 3, none⟩, ⟨1, 3, some ⟨0, 1, 40, none⟩⟩],
  [],
  [⟨3, 0, some ⟨1, 2, 0, some 5⟩⟩, ⟨3, 600, none⟩]]

theorem parse_standardText_mixedLines :
    mixedLines ≠ [] ∧
      (∀ i line, mixedLines[i]? = some line → ∀ m ∈ line, m.generatedLine = i + 1) ∧
      standardText mixedLines = "SEMIK,N,AFNoC;;ACCxCA,wlB" ∧
      parse "SEMIK,N,AFNoC;;ACCxCA,wlB" = .ok [
        [⟨1, 3, none⟩, ⟨1, 3, some ⟨0, 1, 40, none⟩⟩, ⟨1, 9, some ⟨2, 7, 4, some 5⟩⟩],
        [],
        [⟨3, 0, some ⟨1, 2, 0, some 5⟩⟩, ⟨3, 600, none⟩]] := by
  have hne : mixedLines ≠ [] := by decide
  have hnumbers : ∀ i line, mixedLines[i]? = some line → ∀ m ∈ line, m.generatedLine = i + 1 := by
    intro i line hi
    rcases i with _ | _ | _ | i
    · obtain rfl := Option.some.inj hi
      decide
    · obtain rfl := Option.some.inj hi
      decide
    · obtain rfl := Option.some.inj hi
      decide
    · cases hi
  have htext : standardText mixedLines = "SEMIK,N,AFNoC;;ACCxCA,wlB" := by decide +kernel
  have hparse := (parse_standardText hne hnumbers).1
  rw [htext] at hparse
  refine ⟨hne, hnumbers, htext, hparse.trans ?_⟩
  simp [mixedLines, sortLine, List.mergeSort, List.MergeSort.Internal.splitInTwo]

end LintReport.Mappings
