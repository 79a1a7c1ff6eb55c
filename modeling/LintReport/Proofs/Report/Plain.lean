import LintReport.Proofs.Report.Colors
import LintReport.Proofs.Report.Positions

/-!
# Reports without colors, row by row

Every row of a plain table is laid out in the same columns: the line and the column of a diagnostic
with a colon between them, its label, its message and its rule. So labels stand below each other,
and so do messages. Only the message and the rule can break a row into lines, and then the first
position of each further line is joined as well.
-/

namespace LintReport

namespace Table

variable {α : Type}

/-- The greatest number that a function takes on a list, which is zero if the list is empty. -/
def widest (f : α → Nat) (xs : List α) : Nat :=
  (xs.map f).foldr max 0

theorem le_widest (f : α → Nat) {xs : List α} {x : α} (h : x ∈ xs) : f x ≤ widest f xs := by
  induction xs with
  | nil => cases h
  | cons y xs ih =>
      rcases List.mem_cons.mp h with rfl | h
      · exact Nat.le_max_left ..
      · exact Nat.le_trans (ih h) (Nat.le_max_right ..)

theorem widest_zero (xs : List α) : widest (fun _ => 0) xs = 0 := by
  induction xs with
  | nil => rfl
  | cons x xs ih => exact (Nat.zero_max _).trans ih

theorem maxWidths_map {β : Type} (f g : β → Nat) (columns : List β) :
    maxWidths (columns.map f) (columns.map g) = columns.map fun b => max (f b) (g b) := by
  induction columns with
  | nil => rfl
  | cons b columns ih => rw [List.map_cons, List.map_cons, maxWidths, ih, List.map_cons]

theorem maxWidths_nil (as : List Nat) : maxWidths as [] = as := by
  cases as <;> rfl

/-- Where all rows have the same columns, each column is as wide as its widest cell. -/
theorem widths_map (measure : Text → Nat) (columns : List (α → Text)) {xs : List α}
    (hne : xs ≠ []) :
    widths measure (xs.map fun x => columns.map (· x)) =
      columns.map fun column => widest (fun x => measure (column x)) xs := by
  induction xs with
  | nil => exact absurd rfl hne
  | cons x xs ih =>
      rw [List.map_cons, widths, List.map_map]
      cases xs with
      | nil =>
          rw [List.map_nil, widths, maxWidths_nil]
          simp [widest]
      | cons y xs =>
          rw [ih (List.cons_ne_nil y xs), maxWidths_map]
          rfl

end Table

namespace Report

open Terminal (Shows IsPlain visibleLength)

/-! ## Cells -/

/-- The number at a line or a column, which is zero if there is none. -/
def number : Value → Nat
  | .int n => n.toNat
  | _ => 0

/-- The text of a rule, which is empty if there is none. -/
def ruleText (rule : Value) : Text :=
  (rule.orElse (.str [])).text?.getD []

theorem text?_str (s : Text) : ((Value.str s).orElse (.str [])).text? = some s := by
  cases s <;> rfl

@[simp] theorem ruleText_null : ruleText .null = [] := rfl

@[simp] theorem ruleText_str (s : Text) : ruleText (.str s) = s := by
  rw [ruleText, text?_str, Option.getD_some]

/-- Whether a line or a column is absent or a natural number that does not have too many digits. -/
def IsShortCoordinate (v : Value) : Prop :=
  v = .null ∨ ∃ n : Nat, v = .int n ∧ (Decimal.natText n).length ≤ Decimal.maxDigits

theorem coordinate?_eq {v : Value} (hv : IsShortCoordinate v) :
    coordinate? v = some (Decimal.natText (number v)) := by
  rcases hv with rfl | ⟨n, rfl, hdigits⟩
  · rfl
  · have htext : (Value.int n).text? = some (Decimal.natText n) := by
      rw [text?_natural, if_pos hdigits]
    unfold coordinate? Value.orElse
    split
    · exact htext
    · next hzero =>
        obtain rfl : n = 0 := by simpa [Value.truthy] using hzero
        rfl

structure Writable (d : Diagnostic) : Prop where
  line : IsShortCoordinate d.line
  column : IsShortCoordinate d.column
  rule : (d.rule.orElse (.str [])).text? ≠ none

def cells (d : Diagnostic) : List Text :=
  [[], Decimal.natText (number d.line), Decimal.natText (number d.column), label d,
    dropPeriod d.message, ruleText d.rule]

theorem row?_plain {d : Diagnostic} (h : Writable d) : row? ⟨false⟩ d = some (cells d) := by
  obtain ⟨rule, hrule⟩ := Option.ne_none_iff_exists'.mp h.rule
  unfold row? cells
  rw [coordinate?_eq h.line, coordinate?_eq h.column, ruleText, hrule]
  unfold label
  cases d.isError <;> rfl

/-! ## Layout -/

variable {ds : List Diagnostic} {d : Diagnostic}

/-- The number of digits of the greatest line. -/
def lineWidth (ds : List Diagnostic) : Nat :=
  Table.widest (fun d => (Decimal.natText (number d.line)).length) ds

def columnWidth (ds : List Diagnostic) : Nat :=
  Table.widest (fun d => (Decimal.natText (number d.column)).length) ds

def labelWidth (ds : List Diagnostic) : Nat :=
  Table.widest (fun d => (label d).length) ds

/-- The room that the widest message takes up. -/
def messageWidth (ds : List Diagnostic) : Nat :=
  Table.widest (fun d => visibleLength (dropPeriod d.message)) ds

theorem visibleLength_of_isPlain {t : Text} (h : IsPlain t) : visibleLength t = t.length := by
  rw [visibleLength, (Shows.of_isPlain h).visible_eq]

theorem visibleLength_natText (n : Nat) :
    visibleLength (Decimal.natText n) = (Decimal.natText n).length :=
  visibleLength_of_isPlain (isPlain_of_digits (natText_digits n))

theorem widths_cells (hne : ds ≠ []) :
    Table.widths visibleLength (ds.map cells) = [0, lineWidth ds, columnWidth ds, labelWidth ds,
      messageWidth ds, Table.widest (fun d => visibleLength (ruleText d.rule)) ds] := by
  have hlabel : ∀ d, visibleLength (label d) = (label d).length := fun d =>
    visibleLength_of_isPlain (isPlain_label d).1
  have hempty : Table.widest (fun _ : Diagnostic => visibleLength []) ds = 0 := by
    rw [visibleLength_of_isPlain (by decide)]
    exact Table.widest_zero ds
  have h := Table.widths_map visibleLength [fun _ => [], fun d => Decimal.natText (number d.line),
    fun d => Decimal.natText (number d.column), label, fun d => dropPeriod d.message,
    fun d => ruleText d.rule] hne
  simp only [List.map_cons, List.map_nil, visibleLength_natText, hlabel, hempty] at h
  exact h

/-- A row up to its label: two spaces, the line and the column with a colon between them, the line
moved to the right and the column to the left, and two spaces. -/
def positionText (ds : List Diagnostic) (d : Diagnostic) : Text :=
  let line := Decimal.natText (number d.line)
  let column := Decimal.natText (number d.column)
  Table.spaces 2 ++ Table.spaces (lineWidth ds - line.length) ++ line ++ ':' :: column ++
    Table.spaces (columnWidth ds - column.length) ++ Table.spaces 2

/-- The label of a row, filled up with spaces, and two spaces. -/
def labelText (ds : List Diagnostic) (d : Diagnostic) : Text :=
  label d ++ Table.spaces (labelWidth ds - (label d).length) ++ Table.spaces 2

/-- The message of a row without its period, filled up with spaces, two spaces, and the rule. -/
def messageText (ds : List Diagnostic) (d : Diagnostic) : Text :=
  let message := dropPeriod d.message
  message ++ Table.spaces (messageWidth ds - visibleLength message) ++ Table.spaces 2 ++
    ruleText d.rule

def rowText (ds : List Diagnostic) (d : Diagnostic) : Text :=
  Text.trimEnd (positionText ds d ++ labelText ds d ++ messageText ds d)

/-- The row of a diagnostic in a plain table. Where it has several lines, the first position of each
line but the first is joined, for these lines do not begin with the position of the row. -/
def plainRow (ds : List Diagnostic) (d : Diagnostic) : Text :=
  joinLater (rowText ds d)

def labelOffset (ds : List Diagnostic) : Nat :=
  2 + lineWidth ds + 1 + columnWidth ds + 2

def messageOffset (ds : List Diagnostic) : Nat :=
  labelOffset ds + labelWidth ds + 2

theorem length_positionText (hd : d ∈ ds) : (positionText ds d).length = labelOffset ds := by
  have hline := Table.le_widest (fun d => (Decimal.natText (number d.line)).length) hd
  have hcolumn := Table.le_widest (fun d => (Decimal.natText (number d.column)).length) hd
  simp only [positionText, labelOffset, lineWidth, columnWidth, Table.spaces, List.length_append,
    List.length_cons, List.length_replicate]
  omega

theorem length_labelText (hd : d ∈ ds) : (labelText ds d).length = labelWidth ds + 2 := by
  have hlabel := Table.le_widest (fun d => (label d).length) hd
  simp only [labelText, labelWidth, Table.spaces, List.length_append, List.length_replicate]
  omega

theorem not_mem_newline_spaces (n : Nat) : '\n' ∉ Table.spaces n := by
  simp [Table.spaces]

theorem not_mem_newline_natText (n : Nat) : '\n' ∉ Decimal.natText n := fun hmem =>
  (isPlain_of_digits (natText_digits n) _ hmem).2 rfl

theorem not_mem_newline_positionText (ds : List Diagnostic) (d : Diagnostic) :
    '\n' ∉ positionText ds d := by
  simp [positionText, not_mem_newline_spaces, not_mem_newline_natText]

theorem not_mem_newline_labelText (ds : List Diagnostic) (d : Diagnostic) :
    '\n' ∉ labelText ds d := by
  have hlabel : '\n' ∉ label d := fun hmem => ((isPlain_label d).1 _ hmem).2 rfl
  simp [labelText, not_mem_newline_spaces, hlabel]

/-- The first line of a row, whatever follows, has its first position in the first two numbers. -/
theorem joinPosition_numbers {blanks gap : Text} (line column : Nat)
    (hblanks : ∀ c ∈ blanks, c = ' ') (hgap : gap.head? = some ' ') (s : Text) :
    joinPosition ⟨false⟩ (blanks ++ Decimal.natText line ++ Table.defaultSeparator ++
        Decimal.natText column ++ gap ++ s) =
      blanks ++ Decimal.natText line ++ ':' :: Decimal.natText column ++ gap ++ s := by
  have hrest : (gap ++ s).head? = some ' ' := by
    rw [List.head?_append, hgap]
    rfl
  have hjoined := joinPosition_eq ⟨false⟩ line column hblanks hrest
  simpa [Painter.paint] using hjoined

theorem trimEnd_row_ne_nil (ds : List Diagnostic) (d : Diagnostic) :
    Text.trimEnd (labelText ds d ++ messageText ds d) ≠ [] := by
  rw [labelText, List.append_assoc, List.append_assoc]
  exact Text.trimEnd_append_ne_nil (isPlain_label d).2 _

theorem rowText_eq (ds : List Diagnostic) (d : Diagnostic) :
    rowText ds d = positionText ds d ++ Text.trimEnd (labelText ds d ++ messageText ds d) := by
  rw [rowText, List.append_assoc, Text.trimEnd_append_of_ne_nil _ (trimEnd_row_ne_nil ds d)]

/-- The spaces that fill up the last column do not count. -/
theorem trimEnd_fillRow (ds : List Diagnostic) (d : Diagnostic) (w : Nat) :
    Text.trimEnd (Text.join Table.defaultSeparator (Table.fillRow visibleLength []
      [labelWidth ds, messageWidth ds, w] [label d, dropPeriod d.message, ruleText d.rule])) =
        Text.trimEnd (labelText ds d ++ messageText ds d) := by
  have hspaces : ∀ n, ∀ c ∈ Table.spaces n, Text.isBlank c = true := by
    intro n c hc
    rw [(List.mem_replicate.mp hc).2]
    decide
  rw [← Text.trimEnd_append_of_blank (labelText ds d ++ messageText ds d)
    (hspaces (w - visibleLength (ruleText d.rule)))]
  congr 1
  show (label d ++ Table.spaces (labelWidth ds - visibleLength (label d))) ++ Table.spaces 2 ++
    ((dropPeriod d.message ++ _) ++ Table.spaces 2 ++ (ruleText d.rule ++ _)) = _
  rw [visibleLength_of_isPlain (isPlain_label d).1, labelText, messageText]
  simp only [List.append_assoc]

theorem renderRow_cells (ds : List Diagnostic) (d : Diagnostic) (w : Nat) :
    Table.renderRow visibleLength alignments Table.defaultSeparator
        [0, lineWidth ds, columnWidth ds, labelWidth ds, messageWidth ds, w] (cells d) =
      Table.spaces 2 ++ Table.spaces (lineWidth ds - (Decimal.natText (number d.line)).length) ++
        Decimal.natText (number d.line) ++ Table.defaultSeparator ++
          Decimal.natText (number d.column) ++
            (Table.spaces (columnWidth ds - (Decimal.natText (number d.column)).length) ++
              Table.spaces 2) ++ Text.trimEnd (labelText ds d ++ messageText ds d) := by
  have hne := trimEnd_fillRow ds d w ▸ trimEnd_row_ne_nil ds d
  rw [cells, renderRow_eq _ _ _ _ _ hne, trimEnd_fillRow, visibleLength_natText,
    visibleLength_natText, Nat.zero_sub]
  simp only [List.append_assoc]
  rfl

/-- A row, once the positions of its lines have been joined. -/
theorem joinPositions_renderRow (ds : List Diagnostic) (d : Diagnostic) (w : Nat) :
    joinPositions (Table.renderRow visibleLength alignments Table.defaultSeparator
      [0, lineWidth ds, columnWidth ds, labelWidth ds, messageWidth ds, w] (cells d)) =
        plainRow ds d := by
  have hspace : ∀ {n c}, c ∈ Table.spaces n → c = ' ' := fun hc => (List.mem_replicate.mp hc).2
  rw [renderRow_cells, plainRow, rowText_eq, joinLater_append (not_mem_newline_positionText ds d),
    positionText, joinPositions_append ?_ (joinPosition_numbers _ _ ?_ ?_)]
  · simp only [List.append_assoc]
  · have hseparator : '\n' ∉ Table.defaultSeparator := by decide
    simp [not_mem_newline_spaces, not_mem_newline_natText, hseparator]
  · intro c hc
    rcases List.mem_append.mp hc with hc | hc
    · exact hspace hc
    · exact hspace hc
  · cases columnWidth ds - (Decimal.natText (number d.column)).length <;> rfl

/-- From the place on where the messages begin, a row holds the message and the rule. -/
theorem drop_plainRow (hd : d ∈ ds) :
    (plainRow ds d).drop (messageOffset ds) = joinLater (Text.trimEnd (messageText ds d)) := by
  have hlength : (positionText ds d ++ labelText ds d).length = messageOffset ds := by
    rw [List.length_append, length_positionText hd, length_labelText hd, messageOffset,
      Nat.add_assoc]
  have hnewline : '\n' ∉ positionText ds d ++ labelText ds d := by
    simp [not_mem_newline_positionText, not_mem_newline_labelText]
  by_cases hnil : Text.trimEnd (messageText ds d) = []
  · -- the row ends before its message
    have hprefix := Text.trimEnd_prefix (positionText ds d ++ labelText ds d)
    have hrow : rowText ds d = Text.trimEnd (positionText ds d ++ labelText ds d) :=
      (Text.dropEndWhile_append ..).trans (if_pos hnil)
    rw [plainRow, hnil, hrow, joinLater_of_not_mem (Text.not_mem_trimEnd hnewline),
      List.drop_eq_nil_of_le (hlength ▸ List.IsPrefix.length_le hprefix)]
    rfl
  · rw [plainRow, rowText, Text.trimEnd_append_of_ne_nil _ hnil, joinLater_append hnewline,
      ← hlength,
      List.drop_left]

theorem label_prefix_drop_rowText (hd : d ∈ ds) :
    label d <+: (rowText ds d).drop (labelOffset ds) := by
  have hend : ∀ c, (label d).getLast? = some c → Text.isBlank c = false := by
    unfold label
    split
    · exact Text.isBlank_of_getLast? (rfl : _ = some 'r') (by decide)
    · exact Text.isBlank_of_getLast? (rfl : _ = some 'g') (by decide)
  rw [rowText_eq, ← length_positionText hd, List.drop_left, labelText, List.append_assoc,
    List.append_assoc]
  exact Text.prefix_trimEnd hend _

theorem mapM_row?_plain (h : ∀ d ∈ ds, Writable d) :
    ds.mapM (row? ⟨false⟩) = some (ds.map cells) := by
  induction ds with
  | nil => rfl
  | cons d ds ih =>
      rw [List.forall_mem_cons] at h
      rw [List.mapM_cons, row?_plain h.1, ih h.2]
      rfl

/-- The table of diagnostics that can be written, row by row. -/
theorem table?_plain (hne : ds ≠ []) (h : ∀ d ∈ ds, Writable d) :
    table? ⟨false⟩ ds = some (Text.join ['\n'] (ds.map (plainRow ds))) := by
  rw [table?, mapM_row?_plain h]
  show some (joinPositions (Table.render visibleLength alignments Table.defaultSeparator
    (ds.map cells))) = _
  rw [Table.render, widths_cells hne, joinPositions_join (by simpa using hne), List.map_map,
    List.map_map]
  congr 2
  exact List.map_congr_left fun d _ => joinPositions_renderRow ds d _

theorem block?_plain (hne : ds ≠ []) (h : ∀ d ∈ ds, Writable d) (header : Text) :
    block? ⟨false⟩ header ds = some (header ++ ['\n'] ++
      Text.join ['\n'] (ds.map (plainRow ds)) ++ ['\n', '\n']) := by
  rw [block?, table?_plain hne h]
  rfl

/-! ## Rows of one line -/

/-- A diagnostic whose row can be written and is one line. -/
structure OneLine (d : Diagnostic) : Prop where
  line : IsShortCoordinate d.line
  column : IsShortCoordinate d.column
  message : '\n' ∉ d.message
  rule : d.rule = .null ∨ ∃ s, d.rule = .str s ∧ '\n' ∉ s

theorem OneLine.writable (h : OneLine d) : Writable d := by
  refine ⟨h.line, h.column, ?_⟩
  rcases h.rule with hrule | ⟨s, hrule, -⟩
  · rw [hrule]
    exact nofun
  · rw [hrule, text?_str]
    exact nofun

theorem not_mem_newline_dropPeriod {t : Text} (h : '\n' ∉ t) : '\n' ∉ dropPeriod t := by
  unfold dropPeriod
  split
  · exact fun hmem => h (List.dropLast_subset t hmem)
  · exact h

theorem OneLine.not_mem_newline_messageText (h : OneLine d) (ds : List Diagnostic) :
    '\n' ∉ messageText ds d := by
  have hrule : '\n' ∉ ruleText d.rule := by
    rcases h.rule with hrule | ⟨s, hrule, hs⟩
    · simp [hrule]
    · simpa [hrule] using hs
  simp [messageText, not_mem_newline_spaces, not_mem_newline_dropPeriod h.message, hrule]

theorem OneLine.not_mem_newline_rowText (h : OneLine d) (ds : List Diagnostic) :
    '\n' ∉ rowText ds d := by
  refine Text.not_mem_trimEnd ?_
  simp [not_mem_newline_positionText, not_mem_newline_labelText, h.not_mem_newline_messageText ds]

/-- The block of diagnostics whose positions are absent or natural numbers, and whose messages and
rules have no line break, has one line for each of them below its header, and all lines are laid out
alike: the labels begin in one place, and so do the messages. -/
theorem lines_block (hne : ds ≠ []) (h : ∀ d ∈ ds, OneLine d) (header : Text) :
    ∃ table, block? ⟨false⟩ header ds = some (header ++ ['\n'] ++ table ++ ['\n', '\n']) ∧
      Text.lines table = ds.map (rowText ds) ∧
      ∀ d ∈ ds, label d <+: (rowText ds d).drop (labelOffset ds) ∧
        (rowText ds d).drop (messageOffset ds) = Text.trimEnd (messageText ds d) := by
  have hrow : ∀ d ∈ ds, plainRow ds d = rowText ds d := fun d hd =>
    joinLater_of_not_mem ((h d hd).not_mem_newline_rowText ds)
  refine ⟨_, block?_plain hne (fun d hd => (h d hd).writable) header, ?_, fun d hd =>
    ⟨label_prefix_drop_rowText hd, ?_⟩⟩
  · rw [List.map_congr_left hrow]
    refine Text.split_join (by simpa using hne) ?_
    intro row hmem
    obtain ⟨d, hd, rfl⟩ := List.mem_map.mp hmem
    exact (h d hd).not_mem_newline_rowText ds
  · rw [← hrow d hd, drop_plainRow hd,
      joinLater_of_not_mem (Text.not_mem_trimEnd ((h d hd).not_mem_newline_messageText ds))]

def unevenDiagnostics : List Diagnostic := [
  ⟨"m 1.", 2, .int 7, .int 104, .str "r", false⟩, ⟨"longer than m", 1, .null, .int 3, .null, false⟩]

theorem lines_block_unevenDiagnostics :
    (unevenDiagnostics ≠ [] ∧ ∀ d ∈ unevenDiagnostics, OneLine d) ∧
      ∃ table, block? ⟨false⟩ "a.js" unevenDiagnostics =
          some ("a.js".toList ++ ['\n'] ++ table ++ ['\n', '\n']) ∧
        Text.lines table = ["  7:104  error    m 1            r".toList,
          "  0:3    warning  longer than m".toList] := by
  have hne : unevenDiagnostics ≠ [] := by decide
  have h : ∀ d ∈ unevenDiagnostics, OneLine d := by
    simp only [unevenDiagnostics, List.forall_mem_cons, List.not_mem_nil, false_imp_iff,
      implies_true, and_true]
    exact ⟨⟨Or.inr ⟨7, rfl, by decide⟩, Or.inr ⟨104, rfl, by decide⟩, by decide,
      Or.inr ⟨"r".toList, rfl, by decide⟩⟩, ⟨Or.inl rfl, Or.inr ⟨3, rfl, by decide⟩, by decide,
      Or.inl rfl⟩⟩
  obtain ⟨table, hblock, hlines, -⟩ := lines_block hne h "a.js"
  refine ⟨⟨hne, h⟩, table, hblock, hlines.trans ?_⟩
  decide +kernel

end Report

end LintReport
