import LintReport.Proofs.Result
import LintReport.Proofs.SourceMap.Mappings

/-!
# The grammar of mappings

Semicolons stand between the lines of a mappings text and commas between the segments of a line. A
text is read if every segment that is not empty writes one, four or five integers. Otherwise the
fault of the text is that of its first segment, in the order of the text, that does not.
-/

namespace LintReport

theorem Segment.fields_of_ofFields? {fields : List Int} {s : Segment}
    (h : Segment.ofFields? fields = some s) : s.fields = fields := by
  unfold Segment.ofFields? at h
  split at h
  · obtain rfl := Option.some.inj h
    rfl
  · obtain rfl := Option.some.inj h
    rfl
  · obtain rfl := Option.some.inj h
    rfl
  · cases h

namespace Mappings

/-- A segment writes one, four or five integers. -/
def IsSegment (t : Text) : Prop :=
  ∃ fields, Vlq.decode t = .ok fields ∧ fields.length ∈ [1, 4, 5]

/-- The grammar of mappings. Semicolons stand between the lines and commas between the segments of a
line, where nothing may stand in place of a segment. -/
def InGrammar (t : Text) : Prop :=
  ∀ line ∈ Text.split ';' t, ∀ segment ∈ Text.split ',' line, segment ≠ [] → IsSegment segment

/-! ## Segments -/

/-- What is wrong with a text that is no segment: it writes no integers at all, or a number of them
that no segment has. -/
inductive HasFault (t : Text) : Fault → Prop where
  | quantity {fault : Vlq.Fault} (h : Vlq.decode t = .error fault) : HasFault t (.quantity fault)
  | fieldCount {fields : List Int} (h : Vlq.decode t = .ok fields)
      (hcount : fields.length ∉ [1, 4, 5]) : HasFault t (.fieldCount t fields.length)

theorem exists_ofFields?_iff {fields : List Int} :
    (∃ s, Segment.ofFields? fields = some s) ↔ fields.length ∈ [1, 4, 5] := by
  unfold Segment.ofFields?
  split
  · simp
  · simp
  · simp
  · next hone hfour hfive =>
      constructor
      · rintro ⟨s, hs⟩
        cases hs
      · intro hlength
        simp only [List.mem_cons, List.not_mem_nil, or_false] at hlength
        rcases hlength with h | h | h
        · obtain ⟨a, rfl⟩ := List.length_eq_one_iff.mp h
          exact absurd rfl (hone a)
        · match fields, h with
          | [a, b, c, d], _ => exact absurd rfl (hfour a b c d)
        · match fields, h with
          | [a, b, c, d, e], _ => exact absurd rfl (hfive a b c d e)

theorem readSegment_eq_ok_iff {t : Text} {s : Segment} :
    readSegment t = .ok s ↔ Vlq.decode t = .ok s.fields := by
  unfold readSegment
  cases Vlq.decode t with
  | error fault => simp
  | ok fields =>
      dsimp only
      constructor
      · intro h
        cases hfields : Segment.ofFields? fields with
        | none =>
            rw [hfields] at h
            cases h
        | some found =>
            rw [hfields] at h
            obtain rfl := Except.ok.inj h
            rw [Segment.fields_of_ofFields? hfields]
      · intro h
        rw [Except.ok.inj h, Segment.ofFields?_fields]

theorem exists_readSegment_iff {t : Text} : (∃ s, readSegment t = .ok s) ↔ IsSegment t := by
  unfold readSegment IsSegment
  cases Vlq.decode t with
  | error fault => simp
  | ok fields =>
      simp only [Except.ok.injEq, exists_eq_left', ← exists_ofFields?_iff]
      cases Segment.ofFields? fields <;> simp

theorem readSegment_eq_error_iff {t : Text} {fault : Fault} :
    readSegment t = .error fault ↔ HasFault t fault := by
  constructor
  · intro h
    unfold readSegment at h
    cases hdecode : Vlq.decode t with
    | error quantity =>
        rw [hdecode] at h
        obtain rfl := Except.error.inj h
        exact .quantity hdecode
    | ok fields =>
        rw [hdecode] at h
        cases hfields : Segment.ofFields? fields with
        | some s =>
            simp only [hfields] at h
            cases h
        | none =>
            simp only [hfields] at h
            obtain rfl := Except.error.inj h
            refine .fieldCount hdecode fun hcount => ?_
            obtain ⟨s, hs⟩ := exists_ofFields?_iff.mpr hcount
            rw [hfields] at hs
            cases hs
  · rintro (⟨hdecode⟩ | ⟨hdecode, hcount⟩)
    · rw [readSegment, hdecode]
    · rename_i fields
      rw [readSegment, hdecode]
      dsimp only
      cases hfields : Segment.ofFields? fields with
      | some s => exact absurd (exists_ofFields?_iff.mp ⟨s, hfields⟩) hcount
      | none => rfl

/-! ## Texts -/

/-- The texts of the segments that are not empty, line by line. -/
def segmentLines (t : Text) : List (List Text) :=
  (Text.split ';' t).map segmentTexts

theorem inGrammar_iff {t : Text} : InGrammar t ↔ ∀ s ∈ (segmentLines t).flatten, IsSegment s := by
  unfold InGrammar segmentLines segmentTexts
  simp only [List.mem_flatten, List.mem_map, forall_exists_index, and_imp,
    forall_apply_eq_imp_iff₂, List.mem_filter, Bool.not_eq_true', List.isEmpty_eq_false_iff]
  constructor
  · intro h s line hline hs hne
    exact h line hline s hs hne
  · intro h line hline s hs hne
    exact h s line hline hs hne

theorem read_eq_mapM (t : Text) :
    read t = (segmentLines t).mapM (List.mapM readSegment) := by
  have hsegments : ∀ texts, readSegments texts = texts.mapM readSegment := by
    intro texts
    apply eq_mapM_of_cons
    · rfl
    · intro t rest
      rw [readSegments]
      cases readSegment t <;> rfl
  have hlines : ∀ lines, readLines lines =
      lines.mapM fun line => readSegments (segmentTexts line) := by
    intro lines
    apply eq_mapM_of_cons
    · rfl
    · intro line rest
      rw [readLines]
      cases readSegments (segmentTexts line) <;> rfl
  rw [read, hlines, segmentLines, List.mapM_map]
  simp only [hsegments]
  rfl

/-- A text fails to be read with the fault of its first segment that is none. -/
theorem read_eq_error_iff {t : Text} {fault : Fault} :
    read t = .error fault ↔
      ∃ before segment after, (segmentLines t).flatten = before ++ segment :: after ∧
        (∀ s ∈ before, IsSegment s) ∧ HasFault segment fault := by
  rw [read_eq_mapM, mapM_mapM_eq_error_iff, mapM_eq_error_iff]
  simp only [exists_readSegment_iff, readSegment_eq_error_iff]

theorem exists_read_iff {t : Text} : (∃ lines, read t = .ok lines) ↔ InGrammar t := by
  rw [read_eq_mapM, exists_mapM_iff, inGrammar_iff]
  simp only [exists_mapM_iff, exists_readSegment_iff, List.forall_mem_flatten]

/-- A text is read as mappings if and only if it is in the grammar. -/
theorem exists_parse_iff {t : Text} : (∃ lines, parse t = .ok lines) ↔ InGrammar t := by
  rw [← exists_read_iff]
  unfold parse
  cases read t <;> simp [Except.map]

end Mappings

end LintReport
