import LintReport.Proofs.Lint.Tally
import LintReport.Proofs.Report.Conservation
import LintReport.Proofs.Text.Order
import LintReport.Report.Run
import Mathlib.Data.List.Basic

/-!
# The numbers of a report

A report counts its diagnostics while their groups are written, sorted by source; without a report
they are counted over the groups in the order in which these were made. Which groups there are
depends on the disk, on the cache and on the options. The numbers do not: they are those of the
diagnostics as the linter reported them.
-/

namespace LintReport

/-! ## Work that succeeds -/

section Work

variable {ε δ α β : Type}

theorem Work.result_map_eq_ok_iff {onFault : ε → δ} {onResult : α → β} {work : Work ε α} {b : β} :
    (work.map onFault onResult).result = .ok b ↔ ∃ a, work.result = .ok a ∧ onResult a = b := by
  unfold Work.map
  cases work.result <;> simp

theorem Work.result_andThen_eq_ok_iff {first : Work ε α} {second : α → Cache → Work ε β} {b : β} :
    (first.andThen second).result = .ok b ↔
      ∃ a, first.result = .ok a ∧ (second a first.cache).result = .ok b := by
  unfold Work.andThen
  cases first.result <;> simp

end Work

theorem FileReport.map_snd_located (files : List FileReport) :
    (located files).map Prod.snd = files.flatMap FileReport.diagnostics := by
  simp [located, List.map_flatMap, Function.comp_def]

namespace Report

variable {options : Options} {disk : Disk} {cache : Cache} {files : List FileReport}

/-! ## Counting over groups -/

theorem perm_sorted (groups : Groups) : (sorted groups).Perm groups :=
  List.mergeSort_perm ..

/-- Groups of different sources are sorted strictly. -/
theorem pairwise_sorted {groups : Groups} (h : (groups.map Prod.fst).Nodup) :
    (sorted groups).Pairwise fun a b => Text.Precedes a.1 b.1 := by
  have hle : (sorted groups).Pairwise fun a b => Text.le a.1 b.1 = true := by
    refine List.pairwise_mergeSort ?_ ?_ groups
    · exact fun a b c hab hbc => Text.le_trans hab hbc
    · intro a b
      rw [Bool.or_eq_true]
      exact Text.le_total a.1 b.1
  have hne : (sorted groups).Pairwise fun a b => a.1 ≠ b.1 := by
    rw [← List.pairwise_map]
    exact ((perm_sorted groups).map Prod.fst).nodup_iff.mpr h
  exact hle.and hne

/-- Groups have only one strict order. -/
theorem sorted_eq_of_pairwise {groups groups' : Groups} (h : groups.Perm groups')
    (hstrict' : (groups'.map Prod.fst).Pairwise Text.Precedes) : sorted groups = groups' := by
  have hnodup : (groups'.map Prod.fst).Nodup := hstrict'.imp fun hab => hab.2
  have hstrict := pairwise_sorted ((h.map Prod.fst).nodup_iff.mpr hnodup)
  refine List.Perm.eq_of_pairwise ?_ hstrict (List.pairwise_map.mp hstrict')
    ((perm_sorted groups).trans h)
  intro a b _ _ hab hba
  exact absurd (Text.le_antisymm hab.1 hba.1) hab.2

theorem sorted_eq_of_perm {groups groups' : Groups} (h : groups.Perm groups')
    (hnodup : (groups.map Prod.fst).Nodup) : sorted groups = sorted groups' :=
  sorted_eq_of_pairwise (h.trans (perm_sorted groups').symm)
    (List.pairwise_map.mpr (pairwise_sorted ((h.map Prod.fst).nodup_iff.mp hnodup)))

/-- Sorting does not change what groups hold together. -/
theorem tally_sorted (groups : Groups) :
    Tally.ofList (Groups.diagnostics (sorted groups)) = Tally.ofList groups.diagnostics :=
  Tally.ofList_perm ((perm_sorted groups).flatMap_right Prod.snd)

/-- A diagnostic that is taken back to its source stays an error, or stays a warning. -/
theorem map_isError_of_locateAll {located found : List (Text × Diagnostic)}
    (h : (locateAll options disk cache located).result = .ok found) :
    (found.map fun entry => entry.2.isError) = located.map fun entry => entry.2.isError := by
  obtain ⟨hall, rfl⟩ := result_locateAll_eq_ok_iff.mp h
  rw [List.map_filterMap, ← List.filterMap_eq_map']
  apply List.filterMap_congr
  intro entry hentry
  obtain ⟨p, hp⟩ := hall entry hentry
  rw [hp]
  rfl

theorem tally_of_groupFiles {groups : Groups}
    (h : (groupFiles options disk cache files).result = .ok groups) :
    Tally.ofList groups.diagnostics = Tally.ofList (files.flatMap FileReport.diagnostics) := by
  obtain ⟨found, hfound, rfl⟩ := Work.result_map_eq_ok_iff.mp h
  apply Tally.ofList_eq_of_perm_map
  have hperm := (Groups.perm_diagnostics_ofList found).map Diagnostic.isError
  have herrors := map_isError_of_locateAll hfound
  rw [List.map_map] at hperm
  rw [← FileReport.map_snd_located, List.map_map]
  exact hperm.trans (List.Perm.of_eq herrors)

/-! ## Counting over files -/

theorem eq_of_result_tallyFiles {t : Tally}
    (h : (tallyFiles options disk cache files).result = .ok t) :
    t = Tally.ofList (files.flatMap FileReport.diagnostics) := by
  obtain ⟨groups, hgroups, rfl⟩ := Work.result_map_eq_ok_iff.mp h
  exact tally_of_groupFiles hgroups

theorem exists_blocks_of_result_formatFiles {text : Text}
    (h : (formatFiles options disk cache files).result = .ok text) :
    ∃ blocks, text = assemble ⟨options.colored⟩ blocks
      (Tally.ofList (files.flatMap FileReport.diagnostics)) := by
  obtain ⟨groups, hgroups, htext⟩ := Work.result_andThen_eq_ok_iff.mp h
  obtain ⟨_, hfound, rfl⟩ := Work.result_map_eq_ok_iff.mp hgroups
  dsimp only [id] at htext
  rw [render, tally_sorted, tally_of_groupFiles hfound] at htext
  cases hblocks : blocks ⟨options.colored⟩ (displayPath options disk) (sorted _) with
  | error fault =>
      rw [hblocks] at htext
      cases htext
  | ok blocks =>
      rw [hblocks] at htext
      exact ⟨blocks, (Except.ok.inj htext).symm⟩

/-! ## Numbers in words -/

/-- A number with a noun, of which the first form is for the number one. -/
def withNoun (n : Nat) (singular plural : Text) : Text :=
  Decimal.natText n ++ ' ' :: if n = 1 then singular else plural

def numbersLine (total errors warnings : Nat) : Text :=
  "✖ " ++ withNoun total "problem" "problems" ++ " (" ++ withNoun errors "error" "errors" ++ ", " ++
    withNoun warnings "warning" "warnings" ++ ")\n"

theorem counted_eq (n : Nat) (noun : Text) : counted n noun = withNoun n noun (noun ++ ['s']) := by
  have hone : (Value.int n).isInt 1 = decide (n = 1) := by
    show ((n : Int) == 1) = decide (n = 1)
    rw [Bool.eq_iff_iff, beq_iff_eq, decide_eq_true_eq]
    omega
  unfold counted countedNoun withNoun
  rw [hone]
  simp only [decide_eq_true_eq]

theorem tallyText_eq (painter : Painter) (t : Tally) :
    tallyText painter t =
      painter.emphasize t.emphasis (numbersLine t.total t.errors t.warnings) := by
  unfold tallyText
  rw [counted_eq, counted_eq, counted_eq]
  rfl

theorem assemble_eq_nil_iff {painter : Painter} {blocks : List Text} {t : Tally} :
    assemble painter blocks t = [] ↔ t.total = 0 := by
  unfold assemble
  split
  · next hzero => exact iff_of_true rfl hzero
  · next hpositive => exact iff_of_false (by simp) hpositive

/-! ## Reports that have yet to be understood -/

theorem result_format_eq_bind (options : Options) (disk : Disk) (cache : Cache) (report : Value) :
    (format options disk cache report).result =
      (group options disk cache report).result.bind (render options disk) := by
  rw [format, Work.result_andThen]

theorem format_eq (report : Value) :
    format options disk cache report =
      match FileReport.ofReport report with
      | .error fault => ⟨.error (.lint fault), cache, [], []⟩
      | .ok files => formatFiles options disk cache files := by
  unfold format group
  cases FileReport.ofReport report <;> rfl

theorem tally_eq (report : Value) :
    tally options disk cache report =
      match FileReport.ofReport report with
      | .error fault => ⟨.error (.lint fault), cache, [], []⟩
      | .ok files => tallyFiles options disk cache files := by
  unfold tally group
  cases FileReport.ofReport report with
  | error fault => rfl
  | ok files =>
      dsimp only
      unfold tallyFiles Work.map
      cases (groupFiles options disk cache files).result <;> rfl

/-! ## Agreement -/

/-- The numbers of a report that are given without it and the report itself agree, whatever the
disks, caches and options that each of them was made with. All diagnostics are counted, the fatal
ones and those of severity two as errors and the others as warnings, and the emphasis is on errors
if there are any. The report is empty if there is nothing to count, and else it ends with the line
of these numbers. -/
theorem format_ends_with_tally {options options' : Options} {disk disk' : Disk}
    {cache cache' : Cache} {report : Value} {t : Tally} {text : Text}
    (htally : (tally options disk cache report).result = .ok t)
    (hformat : (format options' disk' cache' report).result = .ok text) :
    ∃ files, FileReport.ofReport report = .ok files ∧
      t.total = (files.flatMap FileReport.diagnostics).length ∧
      t.errors = ((files.flatMap FileReport.diagnostics).countP
        fun d => d.fatal || d.severity = 2) ∧
      t.errors + t.warnings = t.total ∧
      t.emphasis = (if 0 < t.errors then "error" else "warning" : Text) ∧
      (text = [] ↔ t.total = 0) ∧
      (t.total ≠ 0 → ∃ front, text = front ++ Painter.emphasize ⟨options'.colored⟩ t.emphasis
        (numbersLine t.total t.errors t.warnings)) := by
  rw [tally_eq] at htally
  rw [format_eq] at hformat
  cases hfiles : FileReport.ofReport report with
  | error fault =>
      rw [hfiles] at htally
      cases htally
  | ok files =>
      rw [hfiles] at htally hformat
      obtain ⟨blocks, rfl⟩ := exists_blocks_of_result_formatFiles hformat
      have heq := eq_of_result_tallyFiles htally
      have ht := heq.trans (Tally.ofList_eq _)
      rw [← heq]
      refine ⟨files, rfl, ?_, ?_, ?_, ?_, assemble_eq_nil_iff, ?_⟩
      · rw [ht]
      · rw [ht]
        rfl
      · rw [heq, Tally.errors_add_warnings]
      · rw [heq, Tally.emphasis_ofList]
      · intro hpositive
        rw [← tallyText_eq]
        exact ⟨_, by rw [assemble, if_neg hpositive]⟩

/-- The report on `splitReport` where no source maps are consulted. -/
def splitPlain : Text :=
  "\na.js\n  2:1  error    q\n  1:3  warning  p\n\n" ++ "t\n  5:5  warning  r\n\n" ++
    "✖ 3 problems (1 error, 2 warnings)\n"

theorem format_ends_with_tally_splitReport :
    (tally .standard splitDisk Cache.empty splitReport).result = .ok ⟨3, 1, 2, "error"⟩ ∧
      (format ⟨false, .null, false⟩ (Disk.empty "/w") Cache.empty splitReport).result =
        .ok splitPlain ∧
      (splitPlain = [] ↔ 3 = 0) ∧
      ∃ front, splitPlain =
        front ++ Painter.emphasize ⟨false⟩ "error" (numbersLine 3 1 2) := by
  have htally : (tally .standard splitDisk Cache.empty splitReport).result =
      .ok ⟨3, 1, 2, "error"⟩ :=
    Work.result_map_eq_ok_iff.mpr ⟨splitGroups, result_group_splitReport, rfl⟩
  have hformat : (format ⟨false, .null, false⟩ (Disk.empty "/w") Cache.empty splitReport).result =
      .ok splitPlain := by
    have hgroups : (group ⟨false, .null, false⟩ (Disk.empty "/w") Cache.empty splitReport).result =
        .ok [("/w/a.js", [secondFinding, firstFinding]), ("/w/t", [sourceFinding])] := by
      with_unfolding_all rfl
    rw [result_format_eq_bind, hgroups, Except.bind, render,
      sorted_eq_of_pairwise (List.Perm.refl _) (by decide)]
    decide +kernel
  obtain ⟨files, -, -, -, -, -, hempty, hends⟩ := format_ends_with_tally htally hformat
  exact ⟨htally, hformat, hempty, hends (by decide)⟩

end Report

end LintReport
