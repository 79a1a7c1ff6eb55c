import LintReport.Proofs.CommandLine.Outcome
import LintReport.Proofs.Json.Reader
import LintReport.Proofs.Lint.Understood

/-!
# Bad reports of a linter

A run that is given no report of a linter ends with a fault, so it prints nothing and writes no
file. The user is told, and the exit code is that for wrong usage, in all cases but two. These are
not foreseen: a text that is nested too deep, and an infinite severity.
-/

namespace LintReport.CommandLine

/-- A text that is no report, in a way that is not foreseen: it is nested too deep, or what is not
understood first is a message with an infinite severity. -/
inductive Unforeseen (t : Text) (depth : Nat) : Prop where
  | tooDeep (h : Json.read t depth = .error .tooDeep)
  | severity {before after : List Value} {file : Value}
      (hread : Json.read t depth = .ok (.list (before ++ file :: after)))
      (hbefore : ∀ v ∈ before, ∃ r, FileReport.ofValue v = .ok r)
      (hfile : FileReport.InfinitelySevere file)

/-- What is wrong with a text that is no report. A text of blanks is the report of no files. -/
inductive Refused (t : Text) (depth : Nat) : InputFault → Prop where
  | json {fault : Json.Fault} (ht : Text.trim t ≠ []) (hread : Json.read t depth = .error fault) :
      Refused t depth (.json fault)
  | notAList {v : Value} (hread : Json.read t depth = .ok v) (hv : ∀ files, v ≠ .list files) :
      Refused t depth .notAList
  | lint {files : List Value} {fault : Lint.Fault} (hread : Json.read t depth = .ok (.list files))
      (hfiles : FileReport.ofValues files = .error fault) :
      Refused t depth (.lint fault)

variable {call : Invocation} {a : Arguments} {settings : Settings} {t : Text} {depth : Nat}
  {fault : InputFault} {path : Text}

/-- Blanks alone are malformed, so a text that is read, or that fails in another way, holds more. -/
theorem trim_ne_nil_of_read {x : Except Json.Fault Value} (h : Json.read t depth = x)
    (hx : x ≠ .error .malformed) : Text.trim t ≠ [] := by
  intro hnil
  rw [Json.read_of_forall_isBlank (Text.forall_isBlank_of_trim hnil)] at h
  exact hx h.symm

theorem parseReport_of_trim (h : Text.trim t ≠ []) :
    parseReport depth t =
      match Json.read t depth with
      | .error fault => .error (.json fault)
      | .ok (.list files) => (FileReport.ofValues files).mapError .lint
      | .ok _ => .error .notAList :=
  if_neg fun hempty => h (List.isEmpty_iff.mp hempty)

/-- The faults of texts are those on the list, each in the cases that the list says. -/
theorem parseReport_eq_error_iff : parseReport depth t = .error fault ↔ Refused t depth fault := by
  constructor
  · intro h
    by_cases ht : Text.trim t = []
    · rw [parseReport, if_pos (List.isEmpty_iff.mpr ht)] at h
      cases h
    · rw [parseReport_of_trim ht] at h
      split at h
      · next hread =>
          obtain rfl := Except.error.inj h
          exact .json ht hread
      · next hread =>
          obtain ⟨e, hfiles, rfl⟩ := mapError_eq_error_iff.mp h
          exact .lint hread hfiles
      · next hv hread =>
          obtain rfl := Except.error.inj h
          exact .notAList hread hv
  · rintro (⟨ht, hread⟩ | ⟨hread, hv⟩ | ⟨hread, hfiles⟩)
    · rw [parseReport_of_trim ht, hread]
    · rw [parseReport_of_trim (trim_ne_nil_of_read hread (by simp)), hread]
      split
      · next heq => cases heq
      · next files heq => exact absurd (Except.ok.inj heq) (hv files)
      · rfl
    · rw [parseReport_of_trim (trim_ne_nil_of_read hread (by simp)), hread]
      exact mapError_eq_error_iff.mpr ⟨_, hfiles, rfl⟩

theorem InputFault.isTold_eq_false_iff :
    fault.isTold = false ↔ fault = .json .tooDeep ∨ fault = .lint (.severity .infinite) := by
  unfold isTold
  split <;> simp_all

theorem Refused.not_told_iff :
    (∃ fault, Refused t depth fault ∧ fault.isTold = false) ↔ Unforeseen t depth := by
  simp only [InputFault.isTold_eq_false_iff]
  constructor
  · rintro ⟨fault, hrefused, rfl | rfl⟩
    · cases hrefused with
      | json _ hread => exact .tooDeep hread
    · cases hrefused with
      | lint hread hfiles =>
          obtain ⟨before, file, after, rfl, hbefore, hfile⟩ :=
            FileReport.ofValues_eq_infinite_iff.mp hfiles
          exact .severity hread hbefore hfile
  · rintro (hread | @⟨before, after, file, hread, hbefore, hfile⟩)
    · exact ⟨_, .json (trim_ne_nil_of_read hread (by simp)) hread, Or.inl rfl⟩
    · have hfiles := FileReport.ofValues_eq_infinite_iff.mpr
        ⟨before, file, after, rfl, hbefore, hfile⟩
      exact ⟨_, .lint hread hfiles, Or.inr rfl⟩

/-- What cannot be read at all is always told. -/
theorem readReport_isTold (h : readReport call path = .error fault) : fault.isTold = true := by
  obtain ⟨e, -, rfl⟩ := mapError_eq_error_iff.mp h
  rfl

theorem input_not_told_iff (h : call.files path = .error fault) :
    fault.isTold = false ↔
      ∃ t, readReport call path = .ok t ∧ Unforeseen t call.disk.room.report := by
  unfold Invocation.files at h
  cases hread : readReport call path with
  | error e =>
      rw [hread] at h
      obtain rfl := Except.error.inj h
      simp [readReport_isTold hread]
  | ok t =>
      rw [hread] at h
      have hparse : parseReport call.disk.room.report t = .error fault := h
      simp only [Except.ok.injEq, exists_eq_left', ← Refused.not_told_iff,
        ← parseReport_eq_error_iff, hparse, Except.error.injEq]

theorem runReport_of_input (hsettings : (Settings.load call.disk a.config).result = .ok settings)
    (hinput : call.files a.report = .error fault) :
    runReport call a = .error (.input a.report fault) := by
  unfold runReport
  rw [hsettings, hinput]
  rfl

/-- Whatever is wrong with the report of the linter, a run with settings ends with a fault that
names the report. The user is told, and the exit code is that for wrong usage, unless the report is
a text of the kind that is not foreseen; then the user is not told. -/
theorem run_bad_report
    (hrequest : Request.ofTexts call.words = .ok (.report a))
    (hsettings : (Settings.load call.disk a.config).result = .ok settings)
    (hbad : ∀ files, call.files a.report ≠ .ok files) :
    ∃ fault, run call = .error (.input a.report fault) ∧
      ((Fault.input a.report fault).code? = some usageCode ↔
        ¬ ∃ t, readReport call a.report = .ok t ∧ Unforeseen t call.disk.room.report) := by
  cases hinput : call.files a.report with
  | ok files => exact absurd hinput (hbad files)
  | error fault =>
      have hrun := (run_eq_runReport hrequest).trans (runReport_of_input hsettings hinput)
      refine ⟨fault, hrun, ?_⟩
      rw [← input_not_told_iff hinput, Fault.code?, Fault.isTold]
      cases fault.isTold <;> simp

def brokenCall : Invocation :=
  ⟨[], "[", Disk.empty "/work", [], .other⟩

theorem run_bad_report_brokenCall :
    ∃ fault, run brokenCall = .error (.input standardInputPath fault) ∧
      (Fault.input standardInputPath fault).code? = some usageCode := by
  have hrequest : Request.ofTexts brokenCall.words = .ok (.report Arguments.start) := rfl
  have hsettings : (Settings.load brokenCall.disk Arguments.start.config).result =
      .ok .default := by decide +kernel
  have hread : Json.read "[" brokenCall.disk.room.report = .error .malformed := by
    with_unfolding_all rfl
  have hbad : brokenCall.files Arguments.start.report = .error (.json .malformed) := by
    with_unfolding_all rfl
  obtain ⟨fault, hrun, hcode⟩ := run_bad_report hrequest hsettings (by simp [hbad])
  refine ⟨fault, hrun, hcode.mpr ?_⟩
  rintro ⟨t, ht, hunforeseen⟩
  obtain rfl : "[".toList = t := Except.ok.inj ht
  cases hunforeseen with
  | tooDeep h =>
      rw [hread] at h
      cases h
  | severity h =>
      rw [hread] at h
      cases h

def infiniteCall : Invocation where
  words := []
  standardInput := .text
    "[\x7b\"filePath\":\"a.js\",\"messages\":[\x7b\"message\":\"m\",\"severity\":1e999\x7d]\x7d]"
  disk := Disk.empty "/work"
  environment := []
  output := .other

theorem run_infiniteCall :
    run infiniteCall = .error (.input standardInputPath (.lint (.severity .infinite))) ∧
      (Fault.input standardInputPath (.lint (.severity .infinite))).code? = none := by
  have hrequest : Request.ofTexts infiniteCall.words = .ok (.report Arguments.start) := rfl
  have hsettings : (Settings.load infiniteCall.disk Arguments.start.config).result =
      .ok .default := by decide +kernel
  have hinput : infiniteCall.files Arguments.start.report =
      .error (.lint (.severity .infinite)) := rfl
  exact ⟨(run_eq_runReport hrequest).trans (runReport_of_input hsettings hinput), rfl⟩

end LintReport.CommandLine
