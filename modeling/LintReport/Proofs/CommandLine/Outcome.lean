import LintReport.CommandLine.Run
import LintReport.Proofs.Json.Nesting
import LintReport.Proofs.Report.Count

/-!
# What a run leaves behind

A run that comes to an end has made a report, which goes to one place, and an exit code, which tells
of errors in the report of the linter. Settings, options, environment, terminal and source maps
decide on the report that is made. They have no part in the exit code, and where the report goes to
a file only the color mode decides on colors.
-/

namespace LintReport.CommandLine

variable {call : Invocation} {a : Arguments} {files : List FileReport}

/-! ## Steps of a run -/

theorem run_eq_runReport (h : Request.ofTexts call.words = .ok (.report a)) :
    run call = runReport call a := by
  rw [run, h]

theorem runReport_eq_ok_iff {outcome : Outcome} :
    runReport call a = .ok outcome ↔
      ∃ settings files text t, (Settings.load call.disk a.config).result = .ok settings ∧
        call.files a.report = .ok files ∧
        makeReport (call.options a (a.override settings)) call.disk files = .ok (text, t) ∧
        deliver call a text t = .ok outcome := by
  unfold runReport
  rw [bind_eq_ok_iff]
  simp only [bind_eq_ok_iff, mapError_eq_ok_iff, Prod.exists]
  constructor
  · rintro ⟨settings, hsettings, files, hfiles, text, t, hreport, hdeliver⟩
    exact ⟨settings, files, text, t, hsettings, hfiles, hreport, hdeliver⟩
  · rintro ⟨settings, files, text, t, hsettings, hfiles, hreport, hdeliver⟩
    exact ⟨settings, hsettings, files, hfiles, text, t, hreport, hdeliver⟩

/-- The text is that of the report, and the tally is that of the diagnostics, though it is taken
after the positions have been resolved a second time. -/
theorem makeReport_eq_ok {options : Report.Options} {disk : Disk} {text : Text} {t : Tally}
    (h : makeReport options disk files = .ok (text, t)) :
    (Report.formatFiles options disk Cache.empty files).result = .ok text ∧
      t = Tally.ofList (files.flatMap FileReport.diagnostics) := by
  unfold makeReport at h
  obtain ⟨text', htext, h⟩ := bind_eq_ok_iff.mp h
  obtain ⟨t', ht, h⟩ := bind_eq_ok_iff.mp h
  obtain ⟨rfl, rfl⟩ := Prod.mk.inj (pure_eq_ok_iff.mp h)
  exact ⟨htext, Report.eq_of_result_tallyFiles ht⟩

/-- A report that two calls read is read as the same files, even if it may be nested deeper in one
of them. -/
theorem parseReport_agree {depth depth' : Nat} {t : Text} {files' : List FileReport}
    (h : parseReport depth t = .ok files) (h' : parseReport depth' t = .ok files') :
    files' = files := by
  unfold parseReport at h h'
  split at h
  · next hempty =>
      rw [if_pos hempty] at h'
      exact (Except.ok.inj h').symm.trans (Except.ok.inj h)
  · next hempty =>
      rw [if_neg hempty] at h'
      have hdeep : Json.read t depth ≠ .error .tooDeep := by
        intro hdeep
        rw [hdeep] at h
        cases h
      have hdeep' : Json.read t depth' ≠ .error .tooDeep := by
        intro hdeep'
        rw [hdeep'] at h'
        cases h'
      rw [Json.read_eq_of_ne_tooDeep hdeep hdeep'] at h'
      exact Except.ok.inj (h'.symm.trans h)

theorem files_agree {call' : Invocation} {p p' : Text} {files' : List FileReport}
    (h : call.files p = .ok files) (h' : call'.files p' = .ok files')
    (hsame : readReport call' p' = readReport call p) : files' = files := by
  unfold Invocation.files at h h'
  rw [hsame] at h'
  cases hread : readReport call p with
  | error fault =>
      rw [hread] at h
      cases h
  | ok t =>
      rw [hread] at h h'
      exact parseReport_agree h h'

theorem locate_of_ensureDirectory {disk disk' : Disk} {directory : Text}
    (h : disk.ensureDirectory directory = .ok disk') : disk'.locate = disk.locate := by
  unfold Disk.ensureDirectory at h
  split at h
  · obtain rfl := Except.ok.inj h
    rfl
  · split at h
    · cases h
    · obtain rfl := Except.ok.inj h
      rfl

theorem locate_of_fill {disk disk' : Disk} {p text : Text} (h : disk.fill p text = .ok disk') :
    disk'.locate = disk.locate := by
  unfold Disk.fill at h
  split at h
  · cases h
  · split at h
    · cases h
    · split at h
      · cases h
      · obtain rfl := Except.ok.inj h
        rfl

/-- Writing does not change what the paths mean. -/
theorem locate_of_write {disk disk' : Disk} {p text : Text} (h : disk.write p text = .ok disk') :
    disk'.locate = disk.locate := by
  obtain ⟨made, hmade, hfill⟩ := bind_eq_ok_iff.mp h
  rw [locate_of_fill hfill, locate_of_ensureDirectory hmade]

/-- The report goes to the standard output unless a file is named, and then to that file alone. -/
theorem deliver_eq_ok {text : Text} {t : Tally} {outcome : Outcome}
    (h : deliver call a text t = .ok outcome) :
    outcome.code = exitCode t ∧
      (a.output = [] → outcome.printed = text ∧ outcome.written = none) ∧
      (a.output ≠ [] → outcome.printed = [] ∧
        outcome.written = some (call.disk.locate a.output, text)) := by
  unfold deliver at h
  split at h
  · next hempty =>
      obtain rfl := Except.ok.inj h
      have hnil : a.output = [] := List.isEmpty_iff.mp hempty
      exact ⟨rfl, fun _ => ⟨rfl, rfl⟩, fun hne => absurd hnil hne⟩
  · next hnonempty =>
      have hne : a.output ≠ [] := fun hnil => hnonempty (List.isEmpty_iff.mpr hnil)
      split at h
      · next disk hwrite =>
          obtain rfl := Except.ok.inj h
          refine ⟨rfl, fun hnil => absurd hnil hne, fun _ => ⟨rfl, ?_⟩⟩
          rw [locate_of_write hwrite]
      · cases h

/-! ## Exit codes and colors -/

theorem exitCode_eq (t : Tally) : exitCode t = 0 ∨ exitCode t = 1 := by
  unfold exitCode
  split
  · exact Or.inl rfl
  · exact Or.inr rfl

theorem exitCode_eq_one_iff :
    exitCode (Tally.ofList (files.flatMap FileReport.diagnostics)) = 1 ↔
      ∃ file ∈ files, ∃ d ∈ file.diagnostics, d.fatal = true ∨ d.severity = 2 := by
  have herrors : exitCode (Tally.ofList (files.flatMap FileReport.diagnostics)) = 1 ↔
      0 < (files.flatMap FileReport.diagnostics).countP Diagnostic.isError := by
    rw [Tally.ofList_eq]
    unfold exitCode
    dsimp only
    split <;> omega
  have hisError : ∀ d : Diagnostic, d.isError = true ↔ d.fatal = true ∨ d.severity = 2 := by
    intro d
    rw [Diagnostic.isError, Bool.or_eq_true, decide_eq_true_eq]
    rfl
  rw [herrors, List.countP_pos_iff]
  simp only [hisError, List.mem_flatMap]
  constructor
  · rintro ⟨d, ⟨file, hfile, hd⟩, herror⟩
    exact ⟨file, hfile, d, hd, herror⟩
  · rintro ⟨file, hfile, d, hd, herror⟩
    exact ⟨d, ⟨file, hfile, hd⟩, herror⟩

/-- A file is no terminal, so it gets colors only if they are asked for always. -/
theorem options_of_output {s : Settings} (houtput : a.output ≠ []) (hcolor : s.color ≠ .always) :
    call.options a s = ⟨false, (s.displayDirectory.map .str).getD .null, s.sourceMaps⟩ := by
  have hdestination : a.destination call.output = .other := by
    rw [Arguments.destination, if_neg (fun hnil => houtput (List.isEmpty_iff.mp hnil))]
  unfold Invocation.options
  rw [hdestination]
  cases hmode : s.color with
  | auto => simp [Painter.forOutput]
  | always => exact absurd hmode hcolor
  | never => rfl

/-! ## Runs -/

/-- What a run leaves behind that makes a report. The exit code is one if the linter reported
something fatal or of severity two, and else zero; so another run on the same report of the linter,
whatever else it is given, has the same exit code. The text of the report goes to the file if one is
named, and nothing is printed then; else it is printed and no file is written. A file gets the
report without colors unless the color mode is to use them always. -/
theorem run_delivers_report {outcome : Outcome}
    (hrequest : Request.ofTexts call.words = .ok (.report a)) (hrun : run call = .ok outcome) :
    ∃ settings files text, (Settings.load call.disk a.config).result = .ok settings ∧
      call.files a.report = .ok files ∧
      (Report.formatFiles (call.options a (a.override settings)) call.disk Cache.empty
        files).result = .ok text ∧
      (outcome.code = 1 ↔
        ∃ file ∈ files, ∃ d ∈ file.diagnostics, d.fatal = true ∨ d.severity = 2) ∧
      (outcome.code = 0 ∨ outcome.code = 1) ∧
      (a.output = [] → outcome.printed = text ∧ outcome.written = none) ∧
      (a.output ≠ [] → outcome.printed = [] ∧
        outcome.written = some (call.disk.locate a.output, text)) ∧
      (a.output ≠ [] → (a.override settings).color ≠ .always →
        (Report.formatFiles ⟨false, (settings.displayDirectory.map .str).getD .null,
          settings.sourceMaps && !a.noSourceMaps⟩ call.disk Cache.empty files).result =
            .ok text) ∧
      ∀ (call' : Invocation) (a' : Arguments) (outcome' : Outcome),
        Request.ofTexts call'.words = .ok (.report a') → run call' = .ok outcome' →
        readReport call' a'.report = readReport call a.report → outcome'.code = outcome.code := by
  rw [run_eq_runReport hrequest] at hrun
  obtain ⟨settings, files, text, t, hsettings, hfiles, hmake, hdeliver⟩ :=
    runReport_eq_ok_iff.mp hrun
  obtain ⟨hformat, rfl⟩ := makeReport_eq_ok hmake
  obtain ⟨hcode, hprinted, hwritten⟩ := deliver_eq_ok hdeliver
  refine ⟨settings, files, text, hsettings, hfiles, hformat, ?_, ?_, hprinted, hwritten, ?_, ?_⟩
  · rw [hcode]
    exact exitCode_eq_one_iff
  · rw [hcode]
    exact exitCode_eq _
  · intro houtput hcolor
    have hoptions : call.options a (a.override settings) = _ := options_of_output houtput hcolor
    rw [hoptions] at hformat
    exact hformat
  · intro call' a' outcome' hrequest' hrun' hsame
    rw [run_eq_runReport hrequest'] at hrun'
    obtain ⟨settings', files', text', t', -, hfiles', hmake', hdeliver'⟩ :=
      runReport_eq_ok_iff.mp hrun'
    obtain rfl := files_agree hfiles hfiles' hsame
    obtain ⟨-, rfl⟩ := makeReport_eq_ok hmake'
    rw [hcode, (deliver_eq_ok hdeliver').1]

def errorReport : Text :=
  "[\x7b\"filePath\":\"a.js\",\"messages\":[" ++
    "\x7b\"message\":\"m\",\"severity\":2,\"line\":1,\"column\":2\x7d]\x7d]"

def errorFiles : List FileReport :=
  [⟨"a.js", [⟨"m", 2, .int 1, .int 2, .null, false⟩]⟩]

def fileCall : Invocation :=
  ⟨["-o", "out.txt"], errorReport, Disk.empty "/w", [], .terminal⟩

def fileOutcome : Outcome :=
  ⟨1, [], some ("/w/out.txt", "\na.js\n  1:2  error  m\n\n✖ 1 problem (1 error, 0 warnings)\n")⟩

def paintedCall : Invocation :=
  ⟨["--color", "always", "--no-source-maps"], errorReport, Disk.empty "/v", [], .other⟩

def paintedOutcome : Outcome where
  code := 1
  printed :=
    "\n\x1b[4ma.js\x1b[24m\n" ++
      "  \x1b[90m1:2\x1b[39m  \x1b[31merror\x1b[39m  m  \x1b[90m\x1b[39m\n\n" ++
      "\x1b[31m\x1b[1m✖ 1 problem (1 error, 0 warnings)\n\x1b[22m\x1b[39m"
  written := none

theorem run_delivers_report_fileCall :
    run fileCall = .ok fileOutcome ∧ run paintedCall = .ok paintedOutcome ∧
      fileOutcome.printed = [] ∧
      (∃ text : Text, fileOutcome.written = some (("/w/out.txt" : Text), text) ∧
        (Report.formatFiles ⟨false, .null, true⟩ fileCall.disk Cache.empty errorFiles).result =
          .ok text) ∧
      paintedOutcome.code = fileOutcome.code := by
  have hrequest : Request.ofTexts fileCall.words =
      .ok (.report { Arguments.start with output := "out.txt" }) := rfl
  have hrequest' : Request.ofTexts paintedCall.words =
      .ok (.report { Arguments.start with noSourceMaps := true, color := some .always }) := rfl
  have hsettings : (Settings.load fileCall.disk []).result = .ok .default := by decide +kernel
  have hfiles : fileCall.files standardInputPath = .ok errorFiles := by with_unfolding_all rfl
  have hrun : run fileCall = .ok fileOutcome := by
    rw [run_eq_runReport hrequest]
    exact runReport_eq_ok_iff.mpr ⟨.default, errorFiles, _, ⟨1, 1, 0, "error"⟩, hsettings, hfiles,
      by decide +kernel, rfl⟩
  have hrun' : run paintedCall = .ok paintedOutcome := by
    rw [run_eq_runReport hrequest']
    exact runReport_eq_ok_iff.mpr ⟨.default, errorFiles, _, ⟨1, 1, 0, "error"⟩, by decide +kernel,
      hfiles, by decide +kernel, rfl⟩
  obtain ⟨settings, files, text, hsettings', hfiles', -, -, -, -, hwritten, hplain, hsame⟩ :=
    run_delivers_report hrequest hrun
  obtain rfl := Except.ok.inj (hsettings.symm.trans hsettings')
  obtain rfl := Except.ok.inj (hfiles.symm.trans hfiles')
  obtain ⟨hprinted, hwritten⟩ := hwritten (by decide)
  exact ⟨hrun, hrun', hprinted, ⟨text, hwritten, hplain (by decide) (by decide)⟩,
    hsame _ _ _ hrequest' hrun' rfl⟩

end LintReport.CommandLine
