import LintReport.Proofs.Report.Count
import LintReport.Proofs.Report.Plain

/-!
# Messages in plain reports

A message is shown in its row as it is, up to the period and the blanks that it ends in. But a
message may have several lines, and a position is joined in each line of a table and not only in the
first line of each row. So a message stays what it is if and only if none of its further lines has a
position.
-/

namespace LintReport.Report

variable {ds : List Diagnostic} {d : Diagnostic}

/-- A message without its period and without the blanks at its end. -/
def shownMessage (d : Diagnostic) : Text :=
  Text.trimEnd (dropPeriod d.message)

/-- Whether a row shows the message in the place where messages begin. -/
def ShowsMessage (ds : List Diagnostic) (d : Diagnostic) : Prop :=
  shownMessage d <+: (plainRow ds d).drop (messageOffset ds)

theorem exists_trimEnd_messageText (ds : List Diagnostic) (d : Diagnostic) :
    ∃ rest, Text.trimEnd (messageText ds d) = shownMessage d ++ rest := by
  obtain ⟨blanks, hblanks, -⟩ := Text.exists_trimEnd_append (dropPeriod d.message)
  have hend := Text.isBlank_of_getLast?_trimEnd (dropPeriod d.message)
  obtain ⟨rest, hrest⟩ := Text.prefix_trimEnd hend (blanks ++
    (Table.spaces (messageWidth ds - Terminal.visibleLength (dropPeriod d.message)) ++
      (Table.spaces 2 ++ ruleText d.rule)))
  refine ⟨rest, ?_⟩
  rw [shownMessage, hrest, ← List.append_assoc, hblanks, messageText]
  simp only [List.append_assoc]

theorem showsMessage_iff (hd : d ∈ ds) :
    ShowsMessage ds d ↔ ∀ line ∈ (Text.lines (shownMessage d)).tail, ¬ HasPosition line := by
  obtain ⟨rest, hrest⟩ := exists_trimEnd_messageText ds d
  rw [ShowsMessage, drop_plainRow hd, hrest]
  exact prefix_joinLater_iff (Text.isBlank_of_getLast?_trimEnd _) rest

/-! ## Reports -/

/-- The block of a group in a plain report: a header, and a row for each diagnostic in their order.
-/
inductive PlainBlock (options : Options) (disk : Disk) : Text × List Diagnostic → Text → Prop
  | intro {source header : Text} {ds : List Diagnostic}
      (hheader : displayPath options disk source = .ok header) :
      PlainBlock options disk (source, ds)
        (header ++ ['\n'] ++ Text.join ['\n'] (ds.map (plainRow ds)) ++ ['\n', '\n'])

variable {options : Options} {disk : Disk} {cache : Cache} {report : Value} {groups : Groups}

theorem exists_displayPath (hdirectory : displayStart? options disk ≠ none) (source : Text) :
    ∃ header, displayPath options disk source = .ok header := by
  obtain ⟨start, hstart⟩ := Option.ne_none_iff_exists'.mp hdirectory
  unfold displayPath
  rw [hstart]
  split
  · exact ⟨_, rfl⟩
  · exact ⟨_, rfl⟩

theorem exists_plainBlocks (hdirectory : displayStart? options disk ≠ none)
    (hne : ∀ entry ∈ groups, entry.2 ≠ [])
    (hdiagnostics : ∀ entry ∈ groups, ∀ d ∈ entry.2, Writable d) :
    ∃ found, blocks ⟨false⟩ (displayPath options disk) groups = .ok found ∧
      List.Forall₂ (PlainBlock options disk) groups found := by
  induction groups with
  | nil => exact ⟨[], rfl, .nil⟩
  | cons entry groups ih =>
      obtain ⟨source, ds⟩ := entry
      rw [List.forall_mem_cons] at hne hdiagnostics
      obtain ⟨found, hfound, hblocks⟩ := ih hne.2 hdiagnostics.2
      obtain ⟨header, hheader⟩ := exists_displayPath hdirectory source
      refine ⟨_, ?_, .cons (.intro hheader) hblocks⟩
      rw [blocks, hheader]
      dsimp only
      rw [block?_plain hne.1 hdiagnostics.1, hfound]
      rfl

/-- A report without colors has a block for each source with a row for each diagnostic, if the
positions are absent or natural numbers of not too many digits and the rules have texts. A message
is shown in its row, up to the period and the blanks that it ends in, if and only if no line of it
but the first has two numbers with only blanks between them. -/
theorem messages_shown_iff (hgroups : (group options disk cache report).result = .ok groups)
    (hdirectory : displayStart? options disk ≠ none)
    (hdiagnostics : ∀ entry ∈ groups, ∀ d ∈ entry.2, Writable d) :
    (∃ found, List.Forall₂ (PlainBlock options disk) (sorted groups) found ∧
        (format { options with colored := false } disk cache report).result =
          .ok (if groups.diagnostics = [] then [] else
            '\n' :: found.flatten ++ tallyText ⟨false⟩ (Tally.ofList groups.diagnostics))) ∧
      ∀ entry ∈ groups, ∀ d ∈ entry.2, ShowsMessage entry.2 d ↔
        ∀ line ∈ (Text.lines (shownMessage d)).tail, ¬ HasPosition line := by
  refine ⟨?_, fun entry _ d hd => showsMessage_iff hd⟩
  have hsorted : ∀ {entry}, entry ∈ sorted groups → entry ∈ groups := fun hentry =>
    List.mem_mergeSort.mp hentry
  have hne : ∀ entry ∈ groups, entry.2 ≠ [] := by
    obtain ⟨files, -, -, rfl⟩ := result_group_eq_ok_iff.mp hgroups
    exact Groups.ne_nil_of_mem_ofList _
  obtain ⟨found, hfound, hblocks⟩ := exists_plainBlocks hdirectory
    (fun entry hentry => hne entry (hsorted hentry))
    (fun entry hentry => hdiagnostics entry (hsorted hentry))
  refine ⟨found, hblocks, ?_⟩
  rw [result_format hgroups, hfound, tally_sorted]
  have htotal : (Tally.ofList groups.diagnostics).total = 0 ↔ groups.diagnostics = [] := by
    rw [Tally.ofList_eq, List.length_eq_zero_iff]
  show Except.ok (assemble _ _ _) = _
  unfold assemble
  simp only [htotal]

def sizesReport : Value :=
  .list [.map [
    (.str "filePath", .str "a.js"),
    (.str "messages", .list [.map [
      (.str "message", .str "sizes:\n10 20"), (.str "severity", .int 1), (.str "line", .int 1),
      (.str "column", .int 1)]])]]

def sizesDiagnostic : Diagnostic :=
  ⟨"sizes:\n10 20", 1, .int 1, .int 1, .null, false⟩

theorem messages_shown_iff_sizesReport :
    (group ⟨false, .null, false⟩ (Disk.empty "/w") Cache.empty sizesReport).result =
        .ok [("/w/a.js", [sizesDiagnostic])] ∧
      displayStart? ⟨false, .null, false⟩ (Disk.empty "/w") ≠ none ∧ Writable sizesDiagnostic ∧
      ¬ ShowsMessage [sizesDiagnostic] sizesDiagnostic := by
  have hgroups : (group ⟨false, .null, false⟩ (Disk.empty "/w") Cache.empty sizesReport).result =
      .ok [("/w/a.js", [sizesDiagnostic])] := rfl
  have hdirectory : displayStart? ⟨false, .null, false⟩ (Disk.empty "/w") ≠ none := by decide
  have hwritable : Writable sizesDiagnostic :=
    ⟨Or.inr ⟨1, rfl, by decide⟩, Or.inr ⟨1, rfl, by decide⟩, nofun⟩
  obtain ⟨-, hshows⟩ := messages_shown_iff hgroups hdirectory (by simpa using hwritable)
  refine ⟨hgroups, hdirectory, hwritable, fun h => ?_⟩
  have hnone := (hshows _ List.mem_cons_self _ List.mem_cons_self).mp h
  have hlines : (Text.lines (shownMessage sizesDiagnostic)).tail = ["10 20".toList] := by
    decide +kernel
  rw [hlines] at hnone
  -- the numbers are the ten, of which the last digit counts, and the twenty
  exact hnone _ List.mem_cons_self (.there (.here (by decide)
    ⟨[' '], '2', ['0'], rfl, by decide, List.forall_mem_singleton.mpr (by decide), by decide⟩))

def sizesText : Text :=
  "\na.js\n  1:1  warning  sizes:\n10:20\n\n✖ 1 problem (0 errors, 1 warning)\n"

/-- A report need not show a message of several lines as it is. -/
theorem hasInfix_sizesText :
    (format ⟨false, .null, false⟩ (Disk.empty "/w") Cache.empty sizesReport).result =
        .ok sizesText ∧
      Text.hasInfix "sizes:\n10 20" sizesText = false := by
  constructor
  · decide +kernel
  · decide +kernel

end LintReport.Report
