import LintReport.Proofs.SourceMap.Choice
import LintReport.Proofs.SourceMap.Grammar
import LintReport.Proofs.SourceMap.Standard
import Mathlib.Algebra.Ring.Int.Defs
import Mathlib.Data.List.Forall2

/-!
# Mappings as sums

A mappings text is read with running totals that are carried from segment to segment and from line
to line. What they amount to can be said of each segment without them: its mapping is a sum over the
segments of its line, for the generated column, and over all segments of the text up to it, for the
place. Reading a text means to take these sums and to sort each line by its columns.
-/

namespace LintReport.Mappings

/-! ## Sums of fields -/

/-- The sum of the fields with the number `k`, over those of the segments that have so many. -/
def fieldSum (k : Nat) (segments : List (List Int)) : Int :=
  (segments.filterMap fun fields => fields[k]?).sum

/-- The mapping of a segment with the given fields, where `line` are the segments of its line up to
and with it, and `all` those of the whole text. -/
def mappingOf (number : Nat) (line all : List (List Int)) (fields : List Int) : Mapping where
  generatedLine := number
  generatedColumn := fieldSum 0 line
  place :=
    if fields.length = 1 then none
    else some {
      source := fieldSum 1 all
      line := fieldSum 2 all + 1
      column := fieldSum 3 all
      name := if fields.length = 5 then some (fieldSum 4 all) else none }

/-- The segments of a text up to and with the one with the index `j` in the line with the index
`i`. -/
def upTo (lines : List (List (List Int))) (i j : Nat) : List (List Int) :=
  (lines.take i).flatten ++ (lines[i]?.getD []).take (j + 1)

/-- The mappings of the segments of the line with the index `i`, in the order of the segments. -/
def summedLine (lines : List (List (List Int))) (i : Nat) (segments : List (List Int)) :
    List Mapping :=
  segments.mapIdx fun j fields =>
    mappingOf (i + 1) (segments.take (j + 1)) (upTo lines i j) fields

def summedLines (lines : List (List (List Int))) : List (List Mapping) :=
  lines.mapIdx (summedLine lines)

/-- The fields that a text writes; none if it writes no integers. -/
def fieldsOf (segment : Text) : List Int :=
  match Vlq.decode segment with
  | .ok fields => fields
  | .error _ => []

/-- The fields of the segments that are not empty, line by line. -/
def fieldLines (t : Text) : List (List (List Int)) :=
  (segmentLines t).map (List.map fieldsOf)

theorem fieldSum_concat (k : Nat) (segments : List (List Int)) (fields : List Int) :
    fieldSum k (segments ++ [fields]) = fieldSum k segments + fields[k]?.getD 0 := by
  unfold fieldSum
  rw [List.filterMap_append, List.sum_append]
  cases hk : fields[k]? with
  | none => simp [hk]
  | some n => simp [hk]

/-! ## Totals as sums -/

def Totals.sum (segments : List (List Int)) : Totals :=
  ⟨fieldSum 1 segments, fieldSum 2 segments, fieldSum 3 segments, fieldSum 4 segments⟩

theorem fieldSum_concat_column (segments : List (List Int)) (s : Segment) :
    fieldSum 0 (segments ++ [s.fields]) = fieldSum 0 segments + s.column := by
  rw [fieldSum_concat]
  obtain ⟨column, place⟩ := s
  cases place <;> rfl

theorem Totals.sum_concat_of_place {s : Segment} {p : Place} (h : s.place = some p)
    (segments : List (List Int)) :
    Totals.sum (segments ++ [s.fields]) = (Totals.sum segments).add p := by
  obtain ⟨column, place⟩ := s
  obtain rfl : place = some p := h
  obtain ⟨source, line, sourceColumn, name⟩ := p
  unfold Totals.sum
  simp only [fieldSum_concat]
  cases name <;> rfl

theorem Totals.sum_concat_of_no_place {s : Segment} (h : s.place = none)
    (segments : List (List Int)) : Totals.sum (segments ++ [s.fields]) = Totals.sum segments := by
  obtain ⟨column, place⟩ := s
  obtain rfl : place = none := h
  unfold Totals.sum
  simp only [fieldSum_concat]
  simp [Segment.fields]

theorem mappingOf_fields (number : Nat) (line all : List (List Int)) (s : Segment) :
    mappingOf number line all s.fields =
      ⟨number, fieldSum 0 line, s.place.map fun p => (Totals.sum all).place p.name.isSome⟩ := by
  obtain ⟨column, place⟩ := s
  cases place with
  | none => rfl
  | some p =>
      obtain ⟨source, line, sourceColumn, name⟩ := p
      cases name <;> rfl

/-- In reading a line, the totals at each of its segments are the sums over the segments so far. -/
theorem sumLine_eq_sums (number : Nat) (above line : List (List Int)) (rest : List Segment) :
    sumLine number (Totals.sum (above ++ line)) (fieldSum 0 line) rest =
      ((rest.map Segment.fields).mapIdx fun j fields =>
          mappingOf number (line ++ (rest.map Segment.fields).take (j + 1))
            (above ++ (line ++ (rest.map Segment.fields).take (j + 1))) fields,
        Totals.sum (above ++ (line ++ rest.map Segment.fields))) := by
  induction rest generalizing line with
  | nil => simp [sumLine]
  | cons s rest ih =>
      have hrest := ih (line ++ [s.fields])
      rw [fieldSum_concat_column, ← List.append_assoc] at hrest
      have hhead := mappingOf_fields number (line ++ [s.fields]) (above ++ (line ++ [s.fields])) s
      rw [fieldSum_concat_column, ← List.append_assoc] at hhead
      rw [sumLine, List.map_cons, List.mapIdx_cons]
      cases hplace : s.place with
      | none =>
          rw [Totals.sum_concat_of_no_place hplace] at hrest
          rw [hplace] at hhead
          dsimp only
          rw [hrest]
          simpa using hhead.symm
      | some p =>
          rw [hplace, Totals.sum_concat_of_place hplace] at hhead
          rw [Totals.sum_concat_of_place hplace] at hrest
          dsimp only
          rw [hrest]
          simpa using hhead.symm

/-- In reading the lines, the totals before each of them are the sums over the lines above. -/
theorem sumLines_eq_sums (number : Nat) (above : List (List (List Int)))
    (rest : List (List Segment)) :
    sumLines number (Totals.sum above.flatten) rest =
      (rest.map (List.map Segment.fields)).mapIdx fun i line =>
        line.mapIdx fun j fields =>
          mappingOf (number + i) (line.take (j + 1))
            ((above ++ (rest.map (List.map Segment.fields)).take i).flatten ++ line.take (j + 1))
            fields := by
  induction rest generalizing number above with
  | nil => rfl
  | cons segments rest ih =>
      have hline := sumLine_eq_sums number above.flatten [] segments
      have hcolumn : fieldSum 0 [] = 0 := rfl
      rw [List.append_nil, hcolumn] at hline
      have hflatten : above.flatten ++ segments.map Segment.fields =
          (above ++ [segments.map Segment.fields]).flatten := by simp
      rw [sumLines, List.map_cons, List.mapIdx_cons, hline]
      dsimp only [List.nil_append]
      rw [hflatten, ih, List.take_zero, List.append_nil, Nat.add_zero, List.cons.injEq]
      refine ⟨rfl, List.mapIdx_eq_mapIdx_iff.mpr ?_⟩
      intro i hi
      rw [List.take_succ_cons, List.append_assoc, List.singleton_append,
        show number + 1 + i = number + (i + 1) by omega]

theorem sumLines_eq_summedLines (lines : List (List Segment)) :
    sumLines 1 .zero lines = summedLines (lines.map (List.map Segment.fields)) := by
  have hsums := sumLines_eq_sums 1 [] lines
  have hstart : Totals.sum [] = .zero := rfl
  rw [List.flatten_nil, hstart] at hsums
  rw [hsums, summedLines]
  apply List.mapIdx_eq_mapIdx_iff.mpr
  intro i hi
  rw [Nat.add_comm 1 i, List.nil_append]
  simp only [summedLine, upTo, List.getElem?_eq_getElem hi, Option.getD_some]

/-! ## Reading -/

theorem fields_of_read {t : Text} {lines : List (List Segment)} (h : read t = .ok lines) :
    lines.map (List.map Segment.fields) = fieldLines t := by
  rw [read_eq_mapM] at h
  refine map_eq_of_mapM (fun texts segments hsegments => ?_) h
  refine map_eq_of_mapM (fun segment s hs => ?_) hsegments
  rw [fieldsOf, readSegment_eq_ok_iff.mp hs]

/-- What is read before the lines are sorted are the sums. -/
theorem inOrder_eq_ok_iff {t : Text} {lines : List (List Mapping)} :
    inOrder t = .ok lines ↔ InGrammar t ∧ lines = summedLines (fieldLines t) := by
  rw [← exists_read_iff, inOrder]
  constructor
  · intro h
    cases hread : read t with
    | error fault =>
        rw [hread] at h
        cases h
    | ok segments =>
        rw [hread] at h
        obtain rfl : sumLines 1 .zero segments = lines := Except.ok.inj h
        exact ⟨⟨segments, rfl⟩, by rw [sumLines_eq_summedLines, fields_of_read hread]⟩
  · rintro ⟨⟨segments, hread⟩, rfl⟩
    rw [hread, ← fields_of_read hread, ← sumLines_eq_summedLines]
    rfl

theorem length_split (sep : Char) (t : Text) : (Text.split sep t).length = t.count sep + 1 := by
  induction t with
  | nil => rfl
  | cons c rest ih =>
      rw [Text.split]
      split
      · next hc => rw [List.length_cons, ih, hc, List.count_cons_self]
      · next hc =>
          rw [List.count_cons_of_ne hc, ← ih]
          cases hpieces : Text.split sep rest with
          | nil => exact absurd hpieces (Text.split_ne_nil sep rest)
          | cons piece pieces => rfl

/-! ## Sorted lines -/

theorem mem_of_filter_column {a b : List Mapping}
    (h : ∀ column, (a.filter fun m => m.generatedColumn = column) =
      b.filter fun m => m.generatedColumn = column) {m : Mapping} (hm : m ∈ a) : m ∈ b := by
  have hfilter : m ∈ b.filter fun n => n.generatedColumn = m.generatedColumn := by
    rw [← h, List.mem_filter]
    exact ⟨hm, decide_eq_true rfl⟩
  exact (List.mem_filter.mp hfilter).1

/-- A sorted line is known from what it has in each of its columns. -/
theorem eq_of_filter_column {a b : List Mapping}
    (ha : a.Pairwise fun m n => m.generatedColumn ≤ n.generatedColumn)
    (hb : b.Pairwise fun m n => m.generatedColumn ≤ n.generatedColumn)
    (h : ∀ column, (a.filter fun m => m.generatedColumn = column) =
      b.filter fun m => m.generatedColumn = column) : a = b := by
  induction a generalizing b with
  | nil =>
      cases b with
      | nil => rfl
      | cons n b =>
          exact absurd (mem_of_filter_column (fun c => (h c).symm) List.mem_cons_self)
            List.not_mem_nil
  | cons m a ih =>
      cases b with
      | nil => exact absurd (mem_of_filter_column h List.mem_cons_self) List.not_mem_nil
      | cons n b =>
          rw [List.pairwise_cons] at ha hb
          -- the first of either list stands in the least column of both
          have hcolumn : m.generatedColumn = n.generatedColumn := by
            apply Int.le_antisymm
            · rcases List.mem_cons.mp (mem_of_filter_column (fun c => (h c).symm)
                List.mem_cons_self) with rfl | hn
              · exact Int.le_refl _
              · exact ha.1 n hn
            · rcases List.mem_cons.mp (mem_of_filter_column h List.mem_cons_self) with rfl | hm
              · exact Int.le_refl _
              · exact hb.1 m hm
          have hfirst := h m.generatedColumn
          rw [List.filter_cons_of_pos (by simp), List.filter_cons_of_pos (by simp [hcolumn])]
            at hfirst
          obtain ⟨rfl, hsame⟩ := List.cons.inj hfirst
          rw [ih ha.2 hb.2 fun column => ?_]
          by_cases hc : m.generatedColumn = column
          · rw [← hc, hsame]
          · have hrest := h column
            rwa [List.filter_cons_of_neg (by simpa using hc),
              List.filter_cons_of_neg (by simpa using hc)] at hrest

theorem SortedStably.unique {line a b : List Mapping} (ha : SortedStably line a)
    (hb : SortedStably line b) : a = b :=
  eq_of_filter_column ha.ascending hb.ascending fun column =>
    (ha.stable column).trans (hb.stable column).symm

theorem forall₂_sortedStably_iff {lines sorted : List (List Mapping)} :
    List.Forall₂ SortedStably lines sorted ↔ sorted = lines.map sortLine := by
  constructor
  · intro h
    induction h with
    | nil => rfl
    | cons hline _ ih => rw [List.map_cons, ← ih, hline.unique (sortedStably_sortLine _)]
  · rintro rfl
    rw [List.forall₂_map_right_iff]
    exact List.forall₂_same.mpr fun line _ => sortedStably_sortLine line

/-! ## The mappings of a text -/

/-- Semicolons stand between the lines of a mappings text and commas between the segments of a line,
where empty segments do not count. Reading the text fails if and only if one of its segments is
none, with the fault of the first of these in the text. Otherwise there is one line of mappings more
than there are semicolons, and it holds the sums for the segments of this line, each of which has
its column from the segments of the line up to it and its place from those of the whole text up to
it, sorted by their columns with those of the same column in the order of the text. -/
theorem parse_eq_sums (t : Text) :
    let segments := (Text.split ';' t).map fun line =>
      (Text.split ',' line).filter fun segment => !segment.isEmpty
    (∀ fault, parse t = .error fault ↔
        ∃ before segment after, segments.flatten = before ++ segment :: after ∧
          (∀ s ∈ before, IsSegment s) ∧ HasFault segment fault) ∧
      ∀ lines, parse t = .ok lines ↔
        (∀ s ∈ segments.flatten, IsSegment s) ∧ lines.length = t.count ';' + 1 ∧
          List.Forall₂ SortedStably (summedLines (segments.map (List.map fieldsOf))) lines := by
  intro segments
  have hsegments : segments = segmentLines t := rfl
  rw [hsegments]
  constructor
  · intro fault
    rw [← read_eq_error_iff, parse]
    cases read t <;> simp [Except.map]
  · intro lines
    rw [forall₂_sortedStably_iff, ← inGrammar_iff, parse_eq_inOrder, ← fieldLines]
    constructor
    · intro h
      cases hinOrder : inOrder t with
      | error fault =>
          rw [hinOrder] at h
          cases h
      | ok found =>
          rw [hinOrder] at h
          obtain rfl : found.map sortLine = lines := Except.ok.inj h
          obtain ⟨hgrammar, rfl⟩ := inOrder_eq_ok_iff.mp hinOrder
          refine ⟨hgrammar, ?_, rfl⟩
          rw [← length_split]
          simp [summedLines, fieldLines, segmentLines]
    · rintro ⟨hgrammar, -, rfl⟩
      rw [inOrder_eq_ok_iff.mpr ⟨hgrammar, rfl⟩]
      rfl

def turnedLines : List (List Mapping) := [
  [⟨1, 4, some ⟨0, 1, 1, none⟩⟩, ⟨1, 5, some ⟨0, 2, 0, none⟩⟩],
  [⟨2, 0, some ⟨0, 1, 1, some 1⟩⟩]]

theorem parse_eq_sums_turnedLines :
    parse "KACA,,DADC;AAAAC" = .ok turnedLines ∧
      parse "KACA,AC,*" = .error (.fieldCount "AC" 2) := by
  have hfirst : Vlq.decode "KACA" = .ok [5, 0, 1, 0] := by decide +kernel
  have hsecond : Vlq.decode "DADC" = .ok [-1, 0, -1, 1] := by decide +kernel
  have hnamed : Vlq.decode "AAAAC" = .ok [0, 0, 0, 0, 1] := by decide +kernel
  have hshort : Vlq.decode "AC" = .ok [0, 1] := by decide +kernel
  constructor
  · refine ((parse_eq_sums _).2 turnedLines).mpr ⟨?_, rfl, ?_⟩
    · have hsegments : ((Text.split ';' "KACA,,DADC;AAAAC").map fun line =>
          (Text.split ',' line).filter fun segment => !segment.isEmpty).flatten =
            (["KACA", "DADC", "AAAAC"] : List Text) := by decide +kernel
      rw [hsegments]
      simp only [List.forall_mem_cons]
      exact ⟨⟨_, hfirst, by decide⟩, ⟨_, hsecond, by decide⟩, ⟨_, hnamed, by decide⟩, by simp⟩
    · have hunsorted : summedLines (fieldLines "KACA,,DADC;AAAAC") =
          [[⟨1, 5, some ⟨0, 2, 0, none⟩⟩, ⟨1, 4, some ⟨0, 1, 1, none⟩⟩],
            [⟨2, 0, some ⟨0, 1, 1, some 1⟩⟩]] := by decide +kernel
      show List.Forall₂ SortedStably (summedLines (fieldLines "KACA,,DADC;AAAAC")) turnedLines
      rw [forall₂_sortedStably_iff, hunsorted]
      simp [turnedLines, sortLine, List.mergeSort, List.MergeSort.Internal.splitInTwo]
  · refine ((parse_eq_sums _).1 _).mpr
      ⟨["KACA"], "AC", ["*"], by decide +kernel, ?_, .fieldCount hshort ?_⟩
    · intro s hs
      obtain rfl := List.mem_singleton.mp hs
      exact ⟨_, hfirst, by decide⟩
    · decide

end LintReport.Mappings
