import LintReport.Proofs.CommandLine.Outcome
import LintReport.Proofs.Resolver.Load
import LintReport.Proofs.Settings.Told

/-!
# Bad settings

A run whose settings cannot be made ends with the fault of the settings. The user is told, and the
exit code is that for wrong usage, unless the document is of a kind that is not foreseen.
-/

namespace LintReport.CommandLine

theorem runReport_of_settings {call : Invocation} {a : Arguments} {fault : Settings.LoadFault}
    (h : (Settings.load call.disk a.config).result = .error fault) :
    runReport call a = .error (.settings fault) := by
  rw [runReport, h]
  rfl

theorem result_load {disk : Disk} {config path : Text} {document : Value}
    (hfile : Settings.file? disk config = .ok (some path))
    (hdocument : Settings.document disk path = .ok document) :
    (Settings.load disk config).result = Settings.ofDocument path document := by
  rw [Settings.load, hfile]
  dsimp only
  rw [hdocument]
  rfl

theorem code?_settings_iff {fault : Settings.LoadFault} :
    (Fault.settings fault).code? = some usageCode ↔ fault.isTold = true := by
  rw [Fault.code?, Fault.isTold]
  cases fault.isTold <;> simp

/-- Whatever document is read from a file of settings, it makes settings or has a fault that the
user is told, unless it is of the kind that is not foreseen; then the user is not told. Settings
that are made have one of the three color modes, and a directory that is no empty text, or none.
A run that finds the file has the settings of the document, or ends with the fault of them, and the
exit code is then that for wrong usage unless the document is of that kind. -/
theorem run_settings_told (path : Text) (document : Value) :
    ((∃ s, Settings.ofDocument path document = .ok s) ∨
        (∃ fault, Settings.ofDocument path document = .error fault ∧ fault.isTold = true) ↔
      ¬ Settings.Unforeseen (.ofPath path) document) ∧
    (∀ s, Settings.ofDocument path document = .ok s →
      s.color.name ∈ (["auto", "always", "never"] : List Text) ∧ s.displayDirectory ≠ some []) ∧
    ∀ call a, Request.ofTexts call.words = .ok (.report a) →
      Settings.file? call.disk a.config = .ok (some path) →
      Settings.document call.disk path = .ok document →
      (Settings.load call.disk a.config).result = Settings.ofDocument path document ∧
        ∀ fault, Settings.ofDocument path document = .error fault →
          run call = .error (.settings fault) ∧
            ((Fault.settings fault).code? = some usageCode ↔
              ¬ Settings.Unforeseen (.ofPath path) document) := by
  refine ⟨Settings.ofDocument_isTold_iff, ?_, ?_⟩
  · intro s hs
    refine ⟨?_, Settings.displayDirectory_ne_nil hs⟩
    cases s.color <;> decide
  · intro call a hrequest hfile hdocument
    have hload := result_load hfile hdocument
    refine ⟨hload, ?_⟩
    intro fault hfault
    have hrun := (run_eq_runReport hrequest).trans (runReport_of_settings (hload.trans hfault))
    refine ⟨hrun, ?_⟩
    rw [code?_settings_iff, ← Settings.ofDocument_isTold_iff, hfault]
    simp

def settingsPath : Text := "a.toml"

/-- A call that names a file of settings with these contents. -/
def settingsCall (contents : Text) : Invocation where
  words := ["-c", settingsPath]
  standardInput := .text []
  disk := ⟨"/work", [("/work/a.toml", .bytes (Utf8.encode contents))], [], {}⟩
  environment := []
  output := .other

theorem read_settingsCall (contents : Text) :
    (settingsCall contents).disk.read settingsPath = .ok (Disk.unixLineBreaks contents) := by
  have hlocate : (settingsCall contents).disk.locate settingsPath = "/work/a.toml" := by
    change (Disk.empty "/work").locate settingsPath = "/work/a.toml"
    decide +kernel
  apply Disk.read_of_file?_encode
  rw [Disk.file?, if_neg (by decide), hlocate]
  rfl

theorem file?_settingsCall (contents : Text) :
    Settings.file? (settingsCall contents).disk settingsPath = .ok (some settingsPath) := by
  have hisFile := Disk.isFile_of_read (read_settingsCall contents)
  rw [Settings.file?, if_neg (by decide), if_pos hisFile]

theorem ofPath_settingsPath : Settings.Format.ofPath settingsPath = .toml := by decide +kernel

theorem document_settingsCall {contents : Text} {entries : List (Value × Value)}
    (h : Toml.read (settingsCall contents).disk.room.toml (Disk.unixLineBreaks contents) =
      .ok entries) :
    Settings.document (settingsCall contents).disk settingsPath = .ok (.map entries) := by
  rw [Settings.document, ofPath_settingsPath, read_settingsCall]
  dsimp only
  rw [Settings.Format.read, h]
  rfl

def numberCall : Invocation :=
  settingsCall "color = 5\n"

def numberDocument : Value :=
  .map [(.str "color", .int 5)]

theorem run_settings_told_numberCall :
    run numberCall = .error (.settings (.settings (.unknownColor "5"))) ∧
      (Fault.settings (.settings (.unknownColor "5"))).code? = some usageCode := by
  have hrequest : Request.ofTexts numberCall.words =
      .ok (.report { Arguments.start with config := settingsPath }) := rfl
  have hdocument : Settings.document numberCall.disk settingsPath = .ok numberDocument :=
    document_settingsCall (by rfl)
  have hmode : Settings.colorMode (.int 5) = .error (.unknownColor "5") :=
    Settings.colorMode_eq_error_iff.mpr (Or.inr ⟨_, rfl, by decide +kernel, by decide +kernel⟩)
  have hmade : Settings.ofEntries [(.str "color", .int 5)] = .error (.unknownColor "5") :=
    bind_eq_error_iff.mpr (Or.inr ⟨some (.int 5), if_pos (by decide +kernel),
      bind_eq_error_iff.mpr (Or.inl hmode)⟩)
  have hfault : Settings.ofDocument settingsPath numberDocument =
      .error (.settings (.unknownColor "5")) := by
    rw [Settings.ofDocument, ofPath_settingsPath]
    change (Settings.ofEntries [(.str "color", .int 5)]).mapError Settings.LoadFault.settings = _
    rw [hmade]
    rfl
  obtain ⟨htold, -, hcall⟩ := run_settings_told settingsPath numberDocument
  obtain ⟨hrun, hcode⟩ := (hcall numberCall _ hrequest (file?_settingsCall _) hdocument).2 _ hfault
  exact ⟨hrun, hcode.mpr (htold.mp (Or.inr ⟨_, hfault, rfl⟩))⟩

def toollessCall : Invocation :=
  settingsCall "tool = 5\n"

theorem run_toollessCall :
    Settings.document toollessCall.disk settingsPath = .ok (.map [(.str "tool", .int 5)]) ∧
      run toollessCall = .error (.settings .toolsNotAMapping) ∧
      (Fault.settings .toolsNotAMapping).code? = none := by
  have hrequest : Request.ofTexts toollessCall.words =
      .ok (.report { Arguments.start with config := settingsPath }) := rfl
  have hdocument : Settings.document toollessCall.disk settingsPath =
      .ok (.map [(.str "tool", .int 5)]) := document_settingsCall (by rfl)
  have hfault : Settings.ofDocument settingsPath (.map [(.str "tool", .int 5)]) =
      .error .toolsNotAMapping := by
    rw [Settings.ofDocument, ofPath_settingsPath]
    rfl
  have hload := (result_load (file?_settingsCall _) hdocument).trans hfault
  exact ⟨hdocument, (run_eq_runReport hrequest).trans (runReport_of_settings hload), rfl⟩

end LintReport.CommandLine
