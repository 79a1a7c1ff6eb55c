import LintReport.Proofs.Lint.Understood
import LintReport.Proofs.Report.Conservation
import LintReport.Report.Session

/-!
# Questions that are refused

A formatter understands all that it is given before it takes the first position back to its source.
So if something among it is not understood, wherever it stands, the question is refused with the
fault of the first such item: no file is opened, the cache stays as it is, and all other questions
of the session are answered as if this one had not been asked.
-/

namespace LintReport

/-- Work that has failed under another view of its results has failed. -/
theorem Work.eq_of_map_eq_error {ε α β : Type} {f : α → β} {work : Work ε α} {fault : ε}
    {cache : Cache} {opened : List Text} {notes : List Note}
    (h : work.map id f = ⟨.error fault, cache, opened, notes⟩) :
    work = ⟨.error fault, cache, opened, notes⟩ := by
  obtain ⟨result, cache', opened', notes'⟩ := work
  cases result with
  | ok a => cases h
  | error e =>
      cases h
      rfl

/-! ## What is given -/

namespace Report

variable {options : Options} {disk : Disk} {cache : Cache}

/-- Of a report as a linter writes it, all files are given as they are written. -/
theorem groupGiven_written (items : List Value) :
    groupGiven options disk cache (items.map .written) =
      group options disk cache (.list items) := by
  have hfiles : (items.map FileReport.Given.written).mapM FileReport.Given.read =
      FileReport.ofReport (.list items) := by
    show _ = FileReport.ofValues items
    rw [FileReport.ofValues_eq_mapM, List.mapM_map]
    rfl
  rw [groupGiven, hfiles]
  rfl

theorem groupGiven_understood (files : List FileReport) :
    groupGiven options disk cache (files.map .understood) =
      (groupFiles options disk cache files).map .resolver id := by
  have hfiles : (files.map FileReport.Given.understood).mapM FileReport.Given.read = .ok files := by
    rw [List.mapM_map]
    exact (List.mapM_pure (f := id)).trans (by rw [List.map_id]; rfl)
  rw [groupGiven, hfiles]

/-- On a report as a linter writes it, a formatter is asked for what is made of such a report. -/
theorem ask_written (items : List Value) :
    ask options disk cache (items.map .written) .groups =
        (group options disk cache (.list items)).map id .groups ∧
      ask options disk cache (items.map .written) .text =
        (format options disk cache (.list items)).map id .text ∧
      ask options disk cache (items.map .written) .tally =
        (tally options disk cache (.list items)).map id .tally := by
  unfold ask
  rw [groupGiven_written]
  refine ⟨rfl, ?_, ?_⟩
  · unfold format Work.andThen Work.map
    dsimp only
    cases (group options disk cache (.list items)).result with
    | error fault => rfl
    | ok groups => cases render options disk groups <;> rfl
  · unfold tally Work.map
    cases (group options disk cache (.list items)).result <;> rfl

/-! ## Refusal -/

/-- If some items are not understood, there is a first of them. -/
theorem exists_first_refused {items : List FileReport.Given}
    (h : ∃ item ∈ items, ∃ fault, item.read = .error fault) :
    ∃ before item after fault, items = before ++ item :: after ∧
      (∀ earlier ∈ before, ∃ file, earlier.read = .ok file) ∧ item.read = .error fault := by
  obtain ⟨item, hitem, fault, hfault⟩ := h
  cases hread : items.mapM FileReport.Given.read with
  | ok files =>
      obtain ⟨file, hfile⟩ := exists_mapM_iff.mp ⟨files, hread⟩ item hitem
      rw [hfault] at hfile
      cases hfile
  | error first =>
      obtain ⟨before, bad, after, hitems, hbefore, hbad⟩ := mapM_eq_error_iff.mp hread
      exact ⟨before, bad, after, first, hitems, hbefore, hbad⟩

/-- Whatever is asked for, the answer is the fault of the first item that is not understood. -/
theorem ask_of_first_refused {before after : List FileReport.Given} {item : FileReport.Given}
    {fault : Lint.Fault} (hbefore : ∀ earlier ∈ before, ∃ file, earlier.read = .ok file)
    (hitem : item.read = .error fault) (question : Question) :
    ask options disk cache (before ++ item :: after) question =
      ⟨.error (.lint fault), cache, [], []⟩ := by
  have hread : (before ++ item :: after).mapM FileReport.Given.read = .error fault :=
    mapM_eq_error_iff.mpr ⟨before, item, after, rfl, hbefore, hitem⟩
  have hgroups : groupGiven options disk cache (before ++ item :: after) =
      ⟨.error (.lint fault), cache, [], []⟩ := by
    rw [groupGiven, hread]
  unfold ask
  rw [hgroups]
  cases question <;> rfl

/-! ## Sessions -/

/-- Whether an event is a question on something that is not understood. -/
def Event.isRefused : Event → Bool
  | .ask _ items => items.any fun item => !item.read.isOk
  | .change _ => false

theorem Event.isRefused_ask_iff {question : Question} {items : List FileReport.Given} :
    (Event.ask question items).isRefused = true ↔
      ∃ item ∈ items, ∃ fault, item.read = .error fault := by
  rw [isRefused, List.any_eq_true]
  refine exists_congr fun item => and_congr_right fun _ => ?_
  cases item.read <;> simp [Except.isOk, Except.toBool]

namespace Session

/-- A question that is refused leaves the session as it is. -/
theorem next_of_isRefused {e : Event} (s : Session) (h : e.isRefused = true) :
    s.next options e = s := by
  cases e with
  | change disk => cases h
  | ask question items =>
      obtain ⟨before, item, after, fault, rfl, hbefore, hitem⟩ :=
        exists_first_refused (Event.isRefused_ask_iff.mp h)
      rw [next, ask_of_first_refused hbefore hitem]

/-- What comes of all other events of a history is what comes of them without those that are
refused. -/
theorem record_filter_isRefused (s : Session) (events : List Event) :
    (s.record options events).filter (fun entry => !entry.1.isRefused) =
      s.record options (events.filter fun e => !e.isRefused) := by
  induction events generalizing s with
  | nil => rfl
  | cons e rest ih =>
      rw [record]
      cases h : e.isRefused with
      | true =>
          rw [List.filter_cons_of_neg (by simp [h]), List.filter_cons_of_neg (by simp [h]),
            next_of_isRefused s h]
          exact ih s
      | false =>
          rw [List.filter_cons_of_pos (by simp [h]), List.filter_cons_of_pos (by simp [h]), record]
          congr 1
          exact ih (s.next options e)

end Session

/-- A list of which not all items are understood is refused before anything happens, wherever the
first item stands that is not understood and whatever stands before it. Whatever is asked for, and
whatever the options, the disk and the cache, the answer is the fault of that item; no file is
opened, no remark is made, and the cache stays as it is. So all other events of a session come out
as they would without the questions that are refused. -/
theorem ask_refused {items : List FileReport.Given}
    (h : ∃ item ∈ items, ∃ fault, item.read = .error fault) :
    ∃ before item after fault, items = before ++ item :: after ∧
      (∀ earlier ∈ before, ∃ file, earlier.read = .ok file) ∧ item.read = .error fault ∧
      ∀ (options : Options) (s : Session),
        (∀ question, (Event.ask question items).isRefused = true ∧
          ask options s.disk s.cache items question = ⟨.error (.lint fault), s.cache, [], []⟩) ∧
        (∀ values, items = values.map .written →
          group options s.disk s.cache (.list values) = ⟨.error (.lint fault), s.cache, [], []⟩ ∧
          format options s.disk s.cache (.list values) = ⟨.error (.lint fault), s.cache, [], []⟩ ∧
          tally options s.disk s.cache (.list values) = ⟨.error (.lint fault), s.cache, [], []⟩) ∧
        ∀ events, (s.record options events).filter (fun entry => !entry.1.isRefused) =
          s.record options (events.filter fun e => !e.isRefused) := by
  obtain ⟨before, item, after, fault, rfl, hbefore, hitem⟩ := exists_first_refused h
  refine ⟨before, item, after, fault, rfl, hbefore, hitem, fun options s => ⟨?_, ?_, ?_⟩⟩
  · intro question
    exact ⟨Event.isRefused_ask_iff.mpr h, ask_of_first_refused hbefore hitem question⟩
  · intro values hvalues
    have hask : ∀ question, ask options s.disk s.cache (values.map .written) question =
        ⟨.error (.lint fault), s.cache, [], []⟩ := by
      intro question
      rw [← hvalues]
      exact ask_of_first_refused hbefore hitem question
    obtain ⟨hgroups, htext, htally⟩ := @ask_written options s.disk s.cache values
    exact ⟨Work.eq_of_map_eq_error (hgroups.symm.trans (hask .groups)),
      Work.eq_of_map_eq_error (htext.symm.trans (hask .text)),
      Work.eq_of_map_eq_error (htally.symm.trans (hask .tally))⟩
  · exact s.record_filter_isRefused

def textlessFile : Value :=
  .map [(.str "filePath", .str "b.js"), (.str "messages", .list [.map [(.str "severity", .int 2)]])]

def textlessItems : List FileReport.Given :=
  splitFiles.map .understood ++ [.written textlessFile]

def textlessEvents : List Event :=
  [.ask .text textlessItems, .ask .groups (splitFiles.map .understood)]

theorem ask_refused_textlessItems :
    (∃ item ∈ textlessItems, ∃ fault, item.read = .error fault) ∧
      ask .standard splitDisk Cache.empty textlessItems .text =
        ⟨.error (.lint .noMessage), Cache.empty, [], []⟩ ∧
      (Session.record .standard ⟨splitDisk, Cache.empty⟩ textlessEvents).filter
          (fun entry => !entry.1.isRefused) =
        Session.record .standard ⟨splitDisk, Cache.empty⟩
          [.ask .groups (splitFiles.map .understood)] ∧
      (ask .standard splitDisk Cache.empty (splitFiles.map .understood) .groups).result =
        .ok (.groups splitGroups) := by
  have hbad : (FileReport.Given.written textlessFile).read = .error .noMessage := rfl
  have h : ∃ item ∈ textlessItems, ∃ fault, item.read = .error fault :=
    ⟨.written textlessFile, by simp [textlessItems], _, hbad⟩
  obtain ⟨before, item, after, fault, hitems, hbefore, hitem, hall⟩ := ask_refused h
  obtain ⟨hask, -, hrecord⟩ := hall .standard ⟨splitDisk, Cache.empty⟩
  refine ⟨h, ?_, hrecord textlessEvents, ?_⟩
  · have hread : textlessItems.mapM FileReport.Given.read = .error .noMessage := rfl
    rw [mapM_eq_error_iff.mpr ⟨before, item, after, hitems, hbefore, hitem⟩] at hread
    obtain rfl := Except.error.inj hread
    exact (hask .text).2
  · have hgroup : groupGiven .standard splitDisk Cache.empty (splitFiles.map .understood) =
        group .standard splitDisk Cache.empty splitReport :=
      groupGiven_understood splitFiles
    rw [ask, hgroup, Work.result_map_id, result_group_splitReport]
    rfl

end Report

end LintReport
