import LintReport.Proofs.Report.Rows
import LintReport.Report.Run

/-!
# Colors do not change a report

A report with colors shows the report without them. It is enough that nothing which is put into the
report looks like a part of a control sequence or breaks a line, and that positions are numbers: a
position is joined by looking for two numbers in the finished line, which would else find others.
-/

namespace LintReport.Report

open Terminal (Shows ShowsLines IsPlain visibleLength)

/-! ## Diagnostics -/

/-- Whether a line or a column is absent or a natural number. -/
def IsCoordinate (v : Value) : Prop :=
  v = .null ∨ ∃ n : Nat, v = .int n

/-- Whether a rule is absent or a text that is shown as it is. -/
def IsRule (v : Value) : Prop :=
  v = .null ∨ ∃ s, v = .str s ∧ IsPlain s

/-- A diagnostic that can be shown in a row. -/
structure Presentable (d : Diagnostic) : Prop where
  line : IsCoordinate d.line
  column : IsCoordinate d.column
  message : IsPlain d.message
  rule : IsRule d.rule

/-- A natural number has a text, its digits, unless these are too many. -/
theorem text?_natural (n : Nat) :
    (Value.int n).text? =
      if (Decimal.natText n).length ≤ Decimal.maxDigits then some (Decimal.natText n) else none := by
  have hnot : ¬ (n : Int) < 0 := by omega
  simp only [Value.text?, Value.shown?, Decimal.intText?, Decimal.intText, Int.natAbs_natCast,
    if_neg hnot]

theorem natText_of_coordinate? {v : Value} (hv : IsCoordinate v) {t : Text}
    (h : coordinate? v = some t) : ∃ n, t = Decimal.natText n := by
  have hint : ∀ n : Nat, (Value.int n).text? = some t → t = Decimal.natText n := by
    intro n hn
    rw [text?_natural] at hn
    split at hn
    · exact (Option.some.inj hn).symm
    · cases hn
  unfold coordinate? Value.orElse at h
  split at h
  · next htruthy =>
      rcases hv with rfl | ⟨n, rfl⟩
      · simp [Value.truthy] at htruthy
      · exact ⟨n, hint n h⟩
  · exact ⟨0, hint 0 h⟩

theorem text?_of_isRule {v : Value} (hv : IsRule v) :
    ∃ s, (v.orElse (.str [])).text? = some s ∧ IsPlain s := by
  rcases hv with rfl | ⟨s, rfl, hs⟩
  · exact ⟨[], rfl, by simp [IsPlain]⟩
  · refine ⟨s, ?_, hs⟩
    unfold Value.orElse
    split
    · rfl
    · next htruthy =>
        have hempty : s = [] := by simpa [Value.truthy] using htruthy
        subst hempty
        rfl

theorem isPlain_dropPeriod {t : Text} (h : IsPlain t) : IsPlain (dropPeriod t) := by
  unfold dropPeriod
  split
  · exact fun c hc => h c (List.dropLast_subset _ hc)
  · exact h

def label (d : Diagnostic) : Text :=
  if d.isError then "error" else "warning"

theorem row?_eq_some {painter : Painter} {d : Diagnostic} {row : List Text}
    (h : row? painter d = some row) :
    ∃ line column rule, coordinate? d.line = some line ∧ coordinate? d.column = some column ∧
      (d.rule.orElse (.str [])).text? = some rule ∧
      row = [[], line, column, painter.level (label d) (label d), dropPeriod d.message,
        painter.paint .dim rule] := by
  unfold row? at h
  obtain ⟨line, hline, h⟩ := Option.bind_eq_some_iff.mp h
  obtain ⟨column, hcolumn, h⟩ := Option.bind_eq_some_iff.mp h
  obtain ⟨rule, hrule, h⟩ := Option.bind_eq_some_iff.mp h
  refine ⟨line, column, rule, hline, hcolumn, hrule, ?_⟩
  have hlabel : painter.level (label d) (label d) =
      if d.isError then painter.paint .error "error" else painter.paint .warning "warning" := by
    unfold label
    split <;> rfl
  rw [hlabel]
  exact (Option.some.inj h).symm

theorem isPlain_label (d : Diagnostic) : IsPlain (label d) ∧ Text.trimEnd (label d) ≠ [] := by
  unfold label
  split <;> decide

theorem sameRow_of_row? {d : Diagnostic} (hd : Presentable d) {painted plain : List Text}
    (hpainted : row? ⟨true⟩ d = some painted) (hplain : row? ⟨false⟩ d = some plain) :
    SameRow painted plain := by
  obtain ⟨line, column, rule, hline, hcolumn, hrule, rfl⟩ := row?_eq_some hplain
  obtain ⟨line', column', rule', hline', hcolumn', hrule', rfl⟩ := row?_eq_some hpainted
  obtain rfl := Option.some.inj (hline.symm.trans hline')
  obtain rfl := Option.some.inj (hcolumn.symm.trans hcolumn')
  obtain rfl := Option.some.inj (hrule.symm.trans hrule')
  obtain ⟨n, rfl⟩ := natText_of_coordinate? hd.line hline
  obtain ⟨m, rfl⟩ := natText_of_coordinate? hd.column hcolumn
  obtain ⟨s, hs, hrulePlain⟩ := text?_of_isRule hd.rule
  obtain rfl := Option.some.inj (hrule.symm.trans hs)
  obtain ⟨hlabel, hvisible⟩ := isPlain_label d
  have hmessage := isPlain_dropPeriod hd.message
  refine .intro n m ((Shows.of_isPlain hlabel).paint _ _) hvisible
    (.cons (Shows.of_isPlain hmessage) (.cons ((Shows.of_isPlain hrulePlain).paint _ _) .nil)) ?_
  simp only [List.forall_mem_cons, List.not_mem_nil, false_imp_iff, implies_true, and_true]
  exact ⟨hlabel, hmessage, hrulePlain⟩

/-! ## Tables and blocks -/

theorem sameRow_of_mapM {ds : List Diagnostic} (hds : ∀ d ∈ ds, Presentable d)
    {painted plain : List (List Text)} (hpainted : ds.mapM (row? ⟨true⟩) = some painted)
    (hplain : ds.mapM (row? ⟨false⟩) = some plain) : List.Forall₂ SameRow painted plain := by
  induction ds generalizing painted plain with
  | nil =>
      obtain rfl := Option.some.inj hpainted
      obtain rfl := Option.some.inj hplain
      exact .nil
  | cons d ds ih =>
      rw [List.forall_mem_cons] at hds
      simp only [List.mapM_cons, Option.bind_eq_bind, Option.bind_eq_some_iff, Option.pure_def,
        Option.some.injEq] at hpainted hplain
      obtain ⟨row', hrow', rows', hrows', rfl⟩ := hpainted
      obtain ⟨row, hrow, rows, hrows, rfl⟩ := hplain
      exact .cons (sameRow_of_row? hds.1 hrow' hrow) (ih hds.2 hrows' hrows)

theorem showsLines_rows {painted plain : List (List Text)}
    (h : List.Forall₂ SameRow painted plain) {widths : List Nat}
    (hwidths : ∀ row ∈ plain, row.length ≤ widths.length) :
    List.Forall₂ ShowsLines
      ((painted.map (Table.renderRow visibleLength alignments Table.defaultSeparator widths)).map
        (joinPosition ⟨true⟩))
      ((plain.map (Table.renderRow visibleLength alignments Table.defaultSeparator widths)).map
        (joinPosition ⟨false⟩)) := by
  induction h with
  | nil => exact .nil
  | cons hfirst _ ih =>
      rw [List.forall_mem_cons] at hwidths
      exact .cons (hfirst.showsLines hwidths.1) (ih hwidths.2)

theorem not_mem_newline_of_sameRows {painted plain : List (List Text)}
    (h : List.Forall₂ SameRow painted plain) :
    (∀ row ∈ painted, ∀ cell ∈ row, '\n' ∉ cell) ∧ ∀ row ∈ plain, ∀ cell ∈ row, '\n' ∉ cell := by
  induction h with
  | nil => simp
  | cons hfirst _ ih =>
      rw [List.forall_mem_cons, List.forall_mem_cons]
      exact ⟨⟨hfirst.not_mem_newline_painted, ih.1⟩, hfirst.not_mem_newline, ih.2⟩

theorem showsLines_table {ds : List Diagnostic} (hds : ∀ d ∈ ds, Presentable d)
    {painted plain : Text} (hpainted : table? ⟨true⟩ ds = some painted)
    (hplain : table? ⟨false⟩ ds = some plain) : ShowsLines painted plain := by
  obtain ⟨rows', hrows', hpainted⟩ := Option.bind_eq_some_iff.mp hpainted
  obtain ⟨rows, hrows, hplain⟩ := Option.bind_eq_some_iff.mp hplain
  obtain rfl := Option.some.inj hpainted
  obtain rfl := Option.some.inj hplain
  have hsame := sameRow_of_mapM hds hrows' hrows
  have hwidths : Table.widths visibleLength rows' = Table.widths visibleLength rows :=
    Table.widths_congr (hsame.imp fun _ _ h => h.map_visibleLength)
  cases rows with
  | nil =>
      obtain rfl := List.forall₂_nil_right_iff.mp hsame
      exact .of_shows .nil
  | cons row rest =>
      obtain ⟨hnewline', hnewline⟩ := not_mem_newline_of_sameRows hsame
      have hne : rows' ≠ [] := by
        rintro rfl
        cases hsame
      rw [Table.lines_render hne hnewline', Table.lines_render (List.cons_ne_nil row rest) hnewline,
        hwidths]
      exact ShowsLines.join (showsLines_rows hsame fun _ hrow => Table.length_le_widths hrow)

theorem showsLines_block {header : Text} (hheader : IsPlain header) {ds : List Diagnostic}
    (hds : ∀ d ∈ ds, Presentable d) {painted plain painted' plain' : Text}
    (hpainted : block? ⟨true⟩ header ds = some painted)
    (hplain : block? ⟨false⟩ header ds = some plain) (hrest : ShowsLines painted' plain') :
    ShowsLines (painted ++ painted') (plain ++ plain') := by
  obtain ⟨table', htable', rfl⟩ := Option.map_eq_some_iff.mp hpainted
  obtain ⟨table, htable, rfl⟩ := Option.map_eq_some_iff.mp hplain
  have hblock := (ShowsLines.of_shows
    ((Shows.of_isPlain hheader).paint ⟨true⟩ .underline)).append_newline
      ((showsLines_table hds htable' htable).append_newline
        ((ShowsLines.of_shows .nil).append_newline hrest))
  simpa [Painter.paint] using hblock

theorem blocks_cons_eq_ok {painter : Painter} {display : Text → Except Fault Text} {source : Text}
    {ds : List Diagnostic} {groups : Groups} {found : List Text}
    (h : blocks painter display ((source, ds) :: groups) = .ok found) :
    ∃ header block rest, display source = .ok header ∧ block? painter header ds = some block ∧
      blocks painter display groups = .ok rest ∧ found = block :: rest := by
  rw [blocks] at h
  cases hheader : display source with
  | error fault => simp [hheader] at h
  | ok header =>
      rw [hheader] at h
      dsimp only at h
      cases hblock : block? painter header ds with
      | none => simp [hblock] at h
      | some block =>
          rw [hblock] at h
          cases hrest : blocks painter display groups with
          | error fault => simp [hrest, Except.map] at h
          | ok rest =>
              rw [hrest] at h
              exact ⟨header, block, rest, rfl, hblock, rfl, (Except.ok.inj h).symm⟩

theorem showsLines_blocks {display : Text → Except Fault Text} {groups : Groups}
    (hheaders : ∀ group ∈ groups, ∀ header, display group.1 = .ok header → IsPlain header)
    (hgroups : ∀ group ∈ groups, ∀ d ∈ group.2, Presentable d) {painted plain : List Text}
    (hpainted : blocks ⟨true⟩ display groups = .ok painted)
    (hplain : blocks ⟨false⟩ display groups = .ok plain) {painted' plain' : Text}
    (hrest : ShowsLines painted' plain') :
    ShowsLines (painted.flatten ++ painted') (plain.flatten ++ plain') := by
  induction groups generalizing painted plain with
  | nil =>
      obtain rfl := Except.ok.inj hpainted
      obtain rfl := Except.ok.inj hplain
      exact hrest
  | cons group groups ih =>
      obtain ⟨source, ds⟩ := group
      rw [List.forall_mem_cons] at hheaders hgroups
      obtain ⟨header, block', rest', hheader, hblock', hrest', rfl⟩ := blocks_cons_eq_ok hpainted
      obtain ⟨header', block, rest, hheader', hblock, hrest, rfl⟩ := blocks_cons_eq_ok hplain
      obtain rfl := Except.ok.inj (hheader.symm.trans hheader')
      rw [List.flatten_cons, List.flatten_cons, List.append_assoc, List.append_assoc]
      exact showsLines_block (hheaders.1 header hheader) hgroups.1 hblock' hblock
        (ih hheaders.2 hgroups.2 hrest' hrest)

/-! ## Reports -/

theorem isPlain_counted (n : Nat) {noun : Text} (hnoun : IsPlain noun) :
    IsPlain (counted n noun) := by
  have hword : IsPlain (countedNoun noun (.int n)) := by
    unfold countedNoun
    split
    · exact hnoun
    · intro c hc
      rcases List.mem_append.mp hc with hc | hc
      · exact hnoun c hc
      · obtain rfl := List.mem_singleton.mp hc
        decide
  intro c hc
  rcases List.mem_append.mp hc with hc | hc
  · exact isPlain_of_digits (natText_digits n) c hc
  · rcases List.mem_cons.mp hc with rfl | hc
    · decide
    · exact hword c hc

theorem showsLines_tallyText (t : Tally) :
    ShowsLines (tallyText ⟨true⟩ t) (tallyText ⟨false⟩ t) := by
  unfold tallyText
  generalize htext : ("✖ ".toList ++ counted t.total "problem" ++ " (" ++ counted t.errors "error" ++
    ", " ++ counted t.warnings "warning" ++ ")\n") = text
  have hshows : Shows text text := by
    rw [← htext]
    have hcounted : ∀ n {noun : Text}, IsPlain noun → Shows (counted n noun) (counted n noun) :=
      fun n _ hnoun => Shows.of_isPlain (isPlain_counted n hnoun)
    have hopen : Shows " (" " (" := .of_isPlain (by decide)
    have hcomma : Shows ", " ", " := .of_isPlain (by decide)
    have hclose : Shows ")\n" ")\n" := .char (by decide) (.char (by decide) .nil)
    have hsign : Shows "✖ " "✖ " := .of_isPlain (by decide)
    exact (((((hsign.append (hcounted _ (by decide))).append hopen).append
      (hcounted _ (by decide))).append hcomma).append (hcounted _ (by decide))).append hclose
  exact .of_shows ((hshows.paint ⟨true⟩ .bold).paint ⟨true⟩ _)

theorem showsLines_assemble {painted plain : List Text} {t : Tally}
    (h : ShowsLines (painted.flatten ++ tallyText ⟨true⟩ t) (plain.flatten ++ tallyText ⟨false⟩ t)) :
    ShowsLines (assemble ⟨true⟩ painted t) (assemble ⟨false⟩ plain t) := by
  unfold assemble
  split
  · exact .of_shows .nil
  · exact (ShowsLines.of_shows .nil).append_newline h

theorem locateAll_colored (options : Options) (colored : Bool) (disk : Disk) (cache : Cache)
    (located : List (Text × Diagnostic)) :
    locateAll { options with colored := colored } disk cache located =
      locateAll options disk cache located := by
  induction located generalizing cache with
  | nil => rfl
  | cons entry rest ih =>
      obtain ⟨path, d⟩ := entry
      have hlocate : locate { options with colored := colored } disk cache path d =
          locate options disk cache path d := rfl
      rw [locateAll, locateAll, hlocate]
      simp only [ih]

/-- Colors do not enter into the grouping of diagnostics. -/
theorem group_colored (options : Options) (colored : Bool) (disk : Disk) (cache : Cache)
    (report : Value) :
    group { options with colored := colored } disk cache report =
      group options disk cache report := by
  unfold group groupFiles
  simp only [locateAll_colored]

theorem result_format {options : Options} {disk : Disk} {cache : Cache} {report : Value}
    {groups : Groups} (hgroups : (group options disk cache report).result = .ok groups)
    (colored : Bool) :
    (format { options with colored := colored } disk cache report).result =
      (blocks ⟨colored⟩ (displayPath options disk) (sorted groups)).map fun blocks =>
        assemble ⟨colored⟩ blocks (Tally.ofList (Groups.diagnostics (sorted groups))) := by
  unfold format Work.andThen
  rw [group_colored, hgroups]
  rfl

/-- If both a report with colors and one without are made of the same diagnostics, and the positions
that they report, traced back to the sources where that is asked for, are natural numbers or absent,
and neither the paths as they are displayed nor the messages and rules hold a line break or a
character that belongs to control sequences, then what the former shows is the latter, up to blanks
at the ends of lines. -/
theorem lines_visible_format {options : Options} {disk : Disk} {cache : Cache} {report : Value}
    {groups : Groups} {painted plain : Text}
    (hgroups : (group options disk cache report).result = .ok groups)
    (hheaders : ∀ entry ∈ groups, ∀ header, displayPath options disk entry.1 = .ok header →
      IsPlain header)
    (hdiagnostics : ∀ entry ∈ groups, ∀ d ∈ entry.2, Presentable d)
    (hpainted : (format { options with colored := true } disk cache report).result = .ok painted)
    (hplain : (format { options with colored := false } disk cache report).result = .ok plain) :
    (Text.lines (Terminal.visible painted)).map Text.trimEnd =
      (Text.lines plain).map Text.trimEnd := by
  rw [result_format hgroups] at hpainted hplain
  cases hblocks' : blocks ⟨true⟩ (displayPath options disk) (sorted groups) with
  | error fault => simp [hblocks', Except.map] at hpainted
  | ok blocks' =>
      cases hblocks : blocks ⟨false⟩ (displayPath options disk) (sorted groups) with
      | error fault => simp [hblocks, Except.map] at hplain
      | ok blocks =>
          rw [hblocks'] at hpainted
          rw [hblocks] at hplain
          obtain rfl := Except.ok.inj hpainted
          obtain rfl := Except.ok.inj hplain
          -- the blocks come in another order than the groups, but there are no others
          have hsorted : ∀ {entry}, entry ∈ sorted groups → entry ∈ groups := fun hentry =>
            List.mem_mergeSort.mp hentry
          exact (showsLines_assemble (showsLines_blocks
            (fun entry hentry => hheaders entry (hsorted hentry))
            (fun entry hentry => hdiagnostics entry (hsorted hentry)) hblocks' hblocks
            (showsLines_tallyText _))).lines_visible

def numericReport : Value :=
  .list [.map [
    (.str "filePath", .str "a.js"),
    (.str "messages", .list [.map [
      (.str "message", .str "not 1 but 2."), (.str "severity", .int 2), (.str "line", .int 1),
      (.str "column", .int 12), (.str "ruleId", .str "7r")]])]]

def numericPainted : Text :=
  "\n\x1b[4ma.js\x1b[24m\n" ++
    "  \x1b[90m1:12\x1b[39m  \x1b[31merror\x1b[39m  not 1 but 2  \x1b[90m7r\x1b[39m\n\n" ++
    "\x1b[31m\x1b[1m✖ 1 problem (1 error, 0 warnings)\n\x1b[22m\x1b[39m"

def numericPlain : Text :=
  "\na.js\n  1:12  error  not 1 but 2  7r\n\n✖ 1 problem (1 error, 0 warnings)\n"

theorem lines_visible_numericPainted :
    (format ⟨true, .null, false⟩ (Disk.empty "/w") Cache.empty numericReport).result =
        .ok numericPainted ∧
      (format ⟨false, .null, false⟩ (Disk.empty "/w") Cache.empty numericReport).result =
        .ok numericPlain ∧
      (Text.lines (Terminal.visible numericPainted)).map Text.trimEnd =
        (Text.lines numericPlain).map Text.trimEnd := by
  have hgroups : (group ⟨true, .null, false⟩ (Disk.empty "/w") Cache.empty numericReport).result =
      .ok [("/w/a.js", [⟨"not 1 but 2.", 2, .int 1, .int 12, .str "7r", false⟩])] := rfl
  have hpainted : (format ⟨true, .null, false⟩ (Disk.empty "/w") Cache.empty numericReport).result =
      .ok numericPainted := by
    decide +kernel
  have hplain : (format ⟨false, .null, false⟩ (Disk.empty "/w") Cache.empty numericReport).result =
      .ok numericPlain := by
    decide +kernel
  refine ⟨hpainted, hplain, lines_visible_format hgroups ?_ ?_ hpainted hplain⟩
  · rw [List.forall_mem_singleton]
    intro header hheader
    have hpath : displayPath ⟨true, .null, false⟩ (Disk.empty "/w") "/w/a.js" = .ok "a.js" := rfl
    obtain rfl := Except.ok.inj (hpath.symm.trans hheader)
    decide
  · rw [List.forall_mem_singleton, List.forall_mem_singleton]
    exact ⟨Or.inr ⟨1, rfl⟩, Or.inr ⟨12, rfl⟩, by decide, Or.inr ⟨"7r", rfl, by decide⟩⟩

end LintReport.Report
