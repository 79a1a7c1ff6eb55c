import LintReport.Proofs.SourceMap.Nearest
import LintReport.Proofs.SourceMap.Written

/-!
# The choice of a mapping

A question to a source map is answered by halving the sorted mappings of a line. Here the answer is
described by the mappings as the text has them, in any order and with any columns: which of them are
considered, which one is chosen, and where that one leads. No other mapping takes the place of one
that leads nowhere.
-/

namespace LintReport

/-! ## What a bias asks for -/

namespace Bias

/-- Whether a mapping in the column `c` may be chosen for a column: one that stands no further right,
or one that stands no further left. -/
def Allows : Bias → (column c : Int) → Prop
  | greatestLowerBound, column, c => c ≤ column
  | leastUpperBound, column, c => column ≤ c

instance (bias : Bias) (column c : Int) : Decidable (bias.Allows column c) :=
  match bias with
  | greatestLowerBound => inferInstanceAs (Decidable (c ≤ column))
  | leastUpperBound => inferInstanceAs (Decidable (column ≤ c))

/-- Which of several mappings in the same column is preferred: the last, or the first. -/
def preferred? : Bias → List Mapping → Option Mapping
  | greatestLowerBound, mappings => mappings.getLast?
  | leastUpperBound, mappings => mappings.head?

/-- Whether a mapping is the one of a list to be chosen for a column: it may be chosen, it stands
next to the column among all that may be, and it is preferred to the others in its own column. -/
structure Chooses (bias : Bias) (column : Int) (mappings : List Mapping) (m : Mapping) : Prop where
  allowed : bias.Allows column m.generatedColumn
  next : ∀ a ∈ mappings, bias.Allows column a.generatedColumn →
    bias.Allows m.generatedColumn a.generatedColumn
  preferred : bias.preferred? (mappings.filter fun a => a.generatedColumn = m.generatedColumn) =
    some m

variable {bias : Bias} {column : Int} {mappings : List Mapping} {m n : Mapping}

theorem mem_of_preferred? (h : bias.preferred? mappings = some m) : m ∈ mappings := by
  cases bias with
  | greatestLowerBound => exact List.mem_of_getLast? h
  | leastUpperBound => exact List.mem_of_head? h

theorem preferred?_eq_none_iff : bias.preferred? mappings = none ↔ mappings = [] := by
  cases bias with
  | greatestLowerBound => exact List.getLast?_eq_none_iff
  | leastUpperBound => exact List.head?_eq_none_iff

theorem Chooses.mem (h : bias.Chooses column mappings m) : m ∈ mappings :=
  (List.mem_filter.mp (mem_of_preferred? h.preferred)).1

theorem Chooses.unique (hm : bias.Chooses column mappings m)
    (hn : bias.Chooses column mappings n) : m = n := by
  have hmn : bias.Allows m.generatedColumn n.generatedColumn := hm.next n hn.mem hn.allowed
  have hnm : bias.Allows n.generatedColumn m.generatedColumn := hn.next m hm.mem hm.allowed
  have hcolumn : m.generatedColumn = n.generatedColumn := by
    cases bias with
    | greatestLowerBound => exact Int.le_antisymm hnm hmn
    | leastUpperBound => exact Int.le_antisymm hmn hnm
  have hpreferred := hm.preferred
  rw [hcolumn, hn.preferred] at hpreferred
  exact (Option.some.inj hpreferred).symm

/-! ## Sorted lines -/

/-- Sorting a line changes nothing about the choice, since it keeps the order within a column. -/
theorem chooses_sortLine :
    bias.Chooses column (Mappings.sortLine mappings) m ↔ bias.Chooses column mappings m := by
  have hfilter := SourceMap.filter_sortLine mappings m.generatedColumn
  constructor
  · rintro ⟨hallowed, hnext, hpreferred⟩
    refine ⟨hallowed, fun a ha => hnext a (SourceMap.mem_sortLine.mpr ha), ?_⟩
    rwa [hfilter] at hpreferred
  · rintro ⟨hallowed, hnext, hpreferred⟩
    refine ⟨hallowed, fun a ha => hnext a (SourceMap.mem_sortLine.mp ha), ?_⟩
    rwa [hfilter]

theorem filter_column_of_allows (h : bias.Allows column m.generatedColumn) :
    mappings.filter (fun a => a.generatedColumn = m.generatedColumn) =
      (mappings.filter fun a => bias.Allows column a.generatedColumn).filter
        fun a => a.generatedColumn = m.generatedColumn := by
  rw [List.filter_filter]
  apply List.filter_congr
  intro a _
  by_cases ha : a.generatedColumn = m.generatedColumn
  · simp [ha, h]
  · simp [ha]

/-- In a sorted list the allowed mappings stand together, with the one to be chosen at their end or
at their beginning. -/
theorem chooses_of_preferred?
    (hsorted : mappings.Pairwise fun a b => a.generatedColumn ≤ b.generatedColumn)
    (h : bias.preferred? (mappings.filter fun a => bias.Allows column a.generatedColumn) = some m) :
    bias.Chooses column mappings m := by
  have hallowed : bias.Allows column m.generatedColumn := by
    simpa using (List.mem_filter.mp (mem_of_preferred? h)).2
  have hpairwise := hsorted.filter fun a => decide (bias.Allows column a.generatedColumn)
  have hmem (a : Mapping) (ha : a ∈ mappings) (hcolumn : bias.Allows column a.generatedColumn) :
      a ∈ mappings.filter fun a => decide (bias.Allows column a.generatedColumn) :=
    List.mem_filter.mpr ⟨ha, decide_eq_true hcolumn⟩
  refine ⟨hallowed, ?_, ?_⟩
  · intro a ha hcolumn
    have ha' := hmem a ha hcolumn
    cases bias with
    | greatestLowerBound =>
        obtain ⟨init, hinit⟩ := List.getLast?_eq_some_iff.mp h
        rw [hinit] at hpairwise ha'
        rcases List.mem_append.mp ha' with hfirst | hlast
        · exact (List.pairwise_append.mp hpairwise).2.2 a hfirst m (by simp)
        · rw [List.mem_singleton.mp hlast]
          exact Int.le_refl _
    | leastUpperBound =>
        obtain ⟨rest, hrest⟩ := List.head?_eq_some_iff.mp h
        rw [hrest] at hpairwise ha'
        rcases List.mem_cons.mp ha' with rfl | htail
        · exact Int.le_refl _
        · exact (List.pairwise_cons.mp hpairwise).1 a htail
  · rw [filter_column_of_allows hallowed]
    cases bias with
    | greatestLowerBound =>
        obtain ⟨init, hinit⟩ := List.getLast?_eq_some_iff.mp h
        rw [hinit, List.filter_append]
        simp [preferred?]
    | leastUpperBound =>
        obtain ⟨rest, hrest⟩ := List.head?_eq_some_iff.mp h
        rw [hrest, List.filter_cons_of_pos (by simp)]
        rfl

end Bias

namespace SourceMap

variable {bias : Bias} {column : Int} {mappings : List Mapping} {m : Mapping}

theorem getElem?_length_takeWhile {α : Type} (p : α → Bool) (xs : List α) :
    xs[(xs.takeWhile p).length]? = (xs.dropWhile p).head? := by
  conv => lhs; arg 1; rw [← List.takeWhile_append_dropWhile (p := p) (l := xs)]
  rw [List.getElem?_append_right (Nat.le_refl _), Nat.sub_self, List.head?_eq_getElem?]

theorem filter_not_eq_dropWhile {test : Mapping → Bool}
    (h : ∀ m ∈ mappings.dropWhile test, test m = false) :
    mappings.filter (fun m => !test m) = mappings.dropWhile test := by
  have hleft : (mappings.takeWhile test).filter (fun m => !test m) = [] :=
    List.filter_eq_nil_iff.mpr fun m hm => by simp [List.mem_takeWhile_imp hm]
  have hright : (mappings.dropWhile test).filter (fun m => !test m) = mappings.dropWhile test :=
    List.filter_eq_self.mpr fun m hm => by simp [h m hm]
  conv =>
    lhs
    rw [← List.takeWhile_append_dropWhile (p := test) (l := mappings)]
  rw [List.filter_append, hleft, hright, List.nil_append]

theorem choose?_toArray_sortLine_least (column : Int) (mappings : List Mapping) :
    choose? (Mappings.sortLine mappings).toArray (.int column) .leastUpperBound =
      ((Mappings.sortLine mappings).filter fun m => column ≤ m.generatedColumn).head? := by
  -- to stand left of a column is to stand no further right than the column before it
  have hdrop := upTo_dropWhile_sortLine (column - 1) mappings
  generalize Mappings.sortLine mappings = sorted at hdrop ⊢
  have htest : isBefore sorted.toArray (.int column) =
      fun i => sorted.toArray[i]?.any fun m => decide (m.generatedColumn ≤ column - 1) := by
    funext i
    unfold isBefore
    congr 1
    funext m
    exact decide_eq_decide.mpr (by omega)
  have hfilter : sorted.filter (fun m => column ≤ m.generatedColumn) =
      sorted.filter fun m => !decide (m.generatedColumn ≤ column - 1) := by
    apply List.filter_congr
    intro m _
    rw [← decide_not]
    exact decide_eq_decide.mpr (by omega)
  unfold choose?
  dsimp only
  rw [htest, partitionPoint_any hdrop, hfilter, filter_not_eq_dropWhile hdrop,
    List.getElem?_toArray, getElem?_length_takeWhile]

theorem choose?_sortLine_eq_preferred? (bias : Bias) (column : Int) (mappings : List Mapping) :
    choose? (Mappings.sortLine mappings).toArray (.int column) bias =
      bias.preferred?
        ((Mappings.sortLine mappings).filter fun m => bias.Allows column m.generatedColumn) := by
  cases bias with
  | greatestLowerBound => exact choose?_toArray_sortLine column mappings
  | leastUpperBound => exact choose?_toArray_sortLine_least column mappings

/-- Nothing is chosen where nothing may be. -/
theorem choose?_sortLine_eq_none_iff :
    choose? (Mappings.sortLine mappings).toArray (.int column) bias = none ↔
      ∀ m ∈ mappings, ¬ bias.Allows column m.generatedColumn := by
  rw [choose?_sortLine_eq_preferred?, Bias.preferred?_eq_none_iff, List.filter_eq_nil_iff]
  simp only [decide_eq_true_eq, mem_sortLine]

/-- The search of a sorted line finds the mapping that is to be chosen from the line as it was
written, whatever the order in that. -/
theorem choose?_sortLine_eq_some_iff :
    choose? (Mappings.sortLine mappings).toArray (.int column) bias = some m ↔
      bias.Chooses column mappings m := by
  have hfound {n : Mapping}
      (h : choose? (Mappings.sortLine mappings).toArray (.int column) bias = some n) :
      bias.Chooses column mappings n := by
    rw [choose?_sortLine_eq_preferred?] at h
    exact Bias.chooses_sortLine.mp (Bias.chooses_of_preferred? (pairwise_sortLine mappings) h)
  constructor
  · exact hfound
  · intro hm
    -- something may be chosen, so something is, and there is only one such mapping
    cases hchosen : choose? (Mappings.sortLine mappings).toArray (.int column) bias with
    | none => exact absurd hm.allowed (choose?_sortLine_eq_none_iff.mp hchosen m hm.mem)
    | some n => rw [(hfound hchosen).unique hm]

end SourceMap

/-! ## The mappings of a line -/

namespace Mappings

/-- The mappings that a text writes, line by line and in their textual order. -/
def inOrder (t : Text) : Except Fault (List (List Mapping)) :=
  (read t).map (sumLines 1 .zero)

/-- Those of the mappings that belong to a generated line, in their textual order. -/
def onLine (lines : List (List Mapping)) (line : Int) : List Mapping :=
  lines.flatten.filter fun m => m.generatedLine = line

theorem parse_eq_inOrder (t : Text) : parse t = (inOrder t).map (List.map sortLine) := by
  unfold parse inOrder
  cases read t <;> rfl

theorem generatedLine_of_mem_sumLine {line : Nat} {totals : Totals} {column : Int}
    {segments : List Segment} :
    ∀ m ∈ (sumLine line totals column segments).1, m.generatedLine = line := by
  induction segments generalizing totals column with
  | nil => simp [sumLine]
  | cons s rest ih =>
      rw [sumLine]
      cases s.place with
      | none => exact List.forall_mem_cons.mpr ⟨rfl, ih⟩
      | some p => exact List.forall_mem_cons.mpr ⟨rfl, ih⟩

/-- Lines are numbered one after the other, so the mappings of a line stand together. -/
theorem onLine_sumLines (first : Nat) (totals : Totals) (lines : List (List Segment)) (line : Int) :
    onLine (sumLines first totals lines) line =
      if first ≤ line then ((sumLines first totals lines)[(line - first).toNat]?).getD []
      else [] := by
  induction lines generalizing first totals with
  | nil => simp [sumLines, onLine]
  | cons segments rest ih =>
      have hline := @generatedLine_of_mem_sumLine first totals 0 segments
      have hrest := ih (first + 1) (sumLine first totals 0 segments).2
      rw [sumLines]
      unfold onLine at hrest ⊢
      dsimp only
      rw [List.flatten_cons, List.filter_append, hrest]
      rcases Int.lt_trichotomy first line with hlt | heq | hgt
      · have hnone : (sumLine first totals 0 segments).1.filter
            (fun m => (m.generatedLine : Int) = line) = [] := by
          refine List.filter_eq_nil_iff.mpr fun m hm => ?_
          rw [hline m hm, decide_eq_true_eq]
          omega
        have hnext : ((first + 1 : Nat) : Int) ≤ line := by omega
        have hindex : (line - first).toNat = (line - (first + 1 : Nat)).toNat + 1 := by omega
        rw [hnone, if_pos hnext, if_pos (Int.le_of_lt hlt), hindex, List.getElem?_cons_succ, List.nil_append]
      · have hall : (sumLine first totals 0 segments).1.filter
            (fun m => (m.generatedLine : Int) = line) = (sumLine first totals 0 segments).1 := by
          refine List.filter_eq_self.mpr fun m hm => ?_
          rw [hline m hm, decide_eq_true_eq]
          exact heq
        have hnext : ¬ ((first + 1 : Nat) : Int) ≤ line := by omega
        have hindex : (line - first).toNat = 0 := by omega
        rw [hall, if_neg hnext, if_pos (Int.le_of_eq heq), hindex, List.append_nil]
        rfl
      · have hnone : (sumLine first totals 0 segments).1.filter
            (fun m => (m.generatedLine : Int) = line) = [] := by
          refine List.filter_eq_nil_iff.mpr fun m hm => ?_
          rw [hline m hm, decide_eq_true_eq]
          omega
        have hnext : ¬ ((first + 1 : Nat) : Int) ≤ line := by omega
        rw [hnone, if_neg hnext, if_neg (by omega), List.nil_append]

/-- No line has a number below one or above the number of lines. -/
theorem onLine_eq_nil {t : Text} {lines : List (List Mapping)} {line : Int}
    (h : inOrder t = .ok lines) (hline : line < 1 ∨ lines.length < line) :
    onLine lines line = [] := by
  unfold inOrder at h
  cases hread : read t with
  | error fault =>
      rw [hread] at h
      cases h
  | ok segments =>
      rw [hread] at h
      obtain rfl : sumLines 1 .zero segments = lines := Except.ok.inj h
      rw [onLine_sumLines]
      split
      · have hout : (sumLines 1 .zero segments)[(line - (1 : Nat)).toNat]? = none :=
          List.getElem?_eq_none (by omega)
        rw [hout, Option.getD_none]
      · rfl

end Mappings

/-! ## Where a mapping leads -/

namespace SourceMap

/-- The name with the number that a place gives, if it gives one and the number is in range. -/
inductive NameAt (names : List Value) : Option Int → Value → Prop where
  | named {i : Nat} {name : Value} (h : names[i]? = some name) : NameAt names (some i) name
  | outOfRange {i : Int} (h : i < 0 ∨ names.length ≤ i) : NameAt names (some i) .null
  | unnamed : NameAt names none .null

/-- The origin that a place stands for: its source is in the list of sources and is not null. -/
inductive LeadsTo (sourceMap : SourceMap) (p : Place) : Origin → Prop where
  | intro {i : Nat} {source name : Value} (hindex : p.source = i)
      (hsource : sourceMap.sources[i]? = some source) (hne : source ≠ .null)
      (hname : NameAt sourceMap.names p.name name) :
      LeadsTo sourceMap p ⟨source, p.line, p.column, name⟩

/-- A mapping that leads nowhere: it has no place, or its source is out of range or null. -/
def LeadsNowhere (sourceMap : SourceMap) (m : Mapping) : Prop :=
  ∀ p, m.place = some p → p.source < 0 ∨ sourceMap.sources.length ≤ p.source ∨
    sourceMap.sources[p.source.toNat]? = some .null

variable {sourceMap : SourceMap}

theorem nameAt_iff {names : List Value} {i : Option Int} {name : Value} :
    NameAt names i name ↔ (i.bind (elementAt? names)).getD .null = name := by
  cases i with
  | none =>
      constructor
      · rintro ⟨⟩
        rfl
      · rintro rfl
        exact .unnamed
  | some i =>
      rw [Option.bind_some, elementAt?]
      constructor
      · rintro (⟨h⟩ | ⟨h⟩)
        · rw [if_neg (by omega), Int.toNat_natCast, h, Option.getD_some]
        · split
          · rfl
          · rw [List.getElem?_eq_none (by omega), Option.getD_none]
      · rintro rfl
        split
        · next hnegative => exact .outOfRange (Or.inl hnegative)
        · next hnonnegative =>
            obtain ⟨n, rfl⟩ := Int.eq_ofNat_of_zero_le (Int.not_lt.mp hnonnegative)
            rw [Int.toNat_natCast]
            cases hname : names[n]? with
            | none =>
                rw [Option.getD_none]
                exact .outOfRange (Or.inr (Int.ofNat_le.mpr (List.getElem?_eq_none_iff.mp hname)))
            | some name => exact .named hname

theorem follow?_eq_some_iff {m : Mapping} {origin : Origin} :
    sourceMap.follow? m = some origin ↔ ∃ p, m.place = some p ∧ sourceMap.LeadsTo p origin := by
  unfold follow?
  cases m.place with
  | none => simp
  | some p =>
      simp only [Option.some.injEq, exists_eq_left']
      unfold elementAt?
      constructor
      · intro h
        split at h
        · cases h
        · cases h
        · next source hnull hsource =>
            split at hsource
            · cases hsource
            · next hnonnegative =>
                obtain rfl := Option.some.inj h
                exact .intro (Int.toNat_of_nonneg (Int.not_lt.mp hnonnegative)).symm hsource hnull
                  (nameAt_iff.mpr rfl)
      · rintro ⟨hindex, hsource, hne, hname⟩
        rw [if_neg (by omega), hindex, Int.toNat_natCast, hsource]
        split
        · next hnone => cases hnone
        · next hnull => exact absurd (Option.some.inj hnull) hne
        · next source hnull hsome =>
            obtain rfl := Option.some.inj hsome
            rw [← nameAt_iff.mp hname]
            rfl

theorem follow?_eq_none_iff {m : Mapping} :
    sourceMap.follow? m = none ↔ sourceMap.LeadsNowhere m := by
  unfold follow? LeadsNowhere
  cases m.place with
  | none => simp
  | some p =>
      simp only [Option.some.injEq, forall_eq']
      unfold elementAt?
      by_cases hnegative : p.source < 0
      · simp [hnegative]
      · rw [if_neg hnegative]
        cases hsource : sourceMap.sources[p.source.toNat]? with
        | none =>
            have hlength := List.getElem?_eq_none_iff.mp hsource
            have hout : (sourceMap.sources.length : Int) ≤ p.source := by omega
            simp [hout]
        | some source =>
            obtain ⟨hlt, -⟩ := List.getElem?_eq_some_iff.mp hsource
            have hin : ¬ (sourceMap.sources.length : Int) ≤ p.source := by omega
            cases source <;> simp [hin, hnegative]

/-! ## Questions -/

/-- An accepted source map is an object with a mappings text, and holds the mappings that this
writes, sorted line by line. -/
theorem exists_inOrder_of_ofValue {v : Value} (h : ofValue v = .ok sourceMap) :
    ∃ entries t lines, v = .map entries ∧ Value.namedD entries "mappings" = .str t ∧
      Mappings.inOrder t = .ok lines ∧
      sourceMap.lines = ((lines.map Mappings.sortLine).map List.toArray).toArray := by
  obtain ⟨entries, t, lines, hv, -, -, ht, hparse, hlines⟩ := exists_parse_of_ofValue h
  rw [Mappings.parse_eq_inOrder] at hparse
  cases hinOrder : Mappings.inOrder t with
  | error fault =>
      rw [hinOrder] at hparse
      cases hparse
  | ok inOrder =>
      rw [hinOrder] at hparse
      obtain rfl := Except.ok.inj hparse
      exact ⟨entries, t, inOrder, hv, ht, hinOrder, hlines⟩

/-- The answer to a question is where the mapping leads that the search finds among those of the
line. -/
theorem origin?_onLine {t : Text} {lines : List (List Mapping)} (h : Mappings.inOrder t = .ok lines)
    (hlines : sourceMap.lines = ((lines.map Mappings.sortLine).map List.toArray).toArray)
    (line column : Int) (bias : Bias) :
    sourceMap.origin? (.int line) (.int column) bias =
      .ok ((choose? (Mappings.sortLine (Mappings.onLine lines line)).toArray (.int column)
        bias).bind sourceMap.follow?) := by
  have hempty : choose? (Mappings.sortLine []).toArray (.int column) bias = none :=
    choose?_sortLine_eq_none_iff.mpr (by simp)
  unfold Mappings.inOrder at h
  cases hread : Mappings.read t with
  | error fault =>
      rw [hread] at h
      cases h
  | ok segments =>
      rw [hread] at h
      obtain rfl : Mappings.sumLines 1 .zero segments = lines := Except.ok.inj h
      rw [origin?_int, hlines, Mappings.onLine_sumLines, List.getElem?_toArray, List.getElem?_map,
        List.getElem?_map]
      rw [show ((1 : Nat) : Int) = 1 from rfl]
      split
      · cases (Mappings.sumLines 1 .zero segments)[(line - 1).toNat]? with
        | none => rw [Option.getD_none, hempty]; rfl
        | some mappings => rfl
      · rw [hempty]
        rfl

/-- The answer of an accepted source map to a question for a line and a column, by a scan of the
mappings as its text writes them. Only the mappings of that line are considered. The one to be chosen
is the one next to the column on the side of the bias, and of several in its column the last or the
first in the text. There is no answer if none may be chosen, or if the chosen one leads nowhere;
otherwise the answer is where that one leads. -/
theorem origin?_eq_scan {v : Value} (h : ofValue v = .ok sourceMap) :
    ∃ entries t lines, v = .map entries ∧ Value.namedD entries "mappings" = .str t ∧
      Mappings.inOrder t = .ok lines ∧
      ∀ (line column : Int) (bias : Bias), ∃ answer,
        sourceMap.origin? (.int line) (.int column) bias = .ok answer ∧
          (line < 1 ∨ lines.length < line → Mappings.onLine lines line = []) ∧
          (answer = none ↔
            (∀ m ∈ Mappings.onLine lines line, ¬ bias.Allows column m.generatedColumn) ∨
              ∃ m, bias.Chooses column (Mappings.onLine lines line) m ∧
                sourceMap.LeadsNowhere m) ∧
          ∀ origin, answer = some origin ↔
            ∃ m p, bias.Chooses column (Mappings.onLine lines line) m ∧ m.place = some p ∧
              sourceMap.LeadsTo p origin := by
  obtain ⟨entries, t, lines, hv, ht, hinOrder, hlines⟩ := exists_inOrder_of_ofValue h
  refine ⟨entries, t, lines, hv, ht, hinOrder, fun line column bias => ?_⟩
  refine ⟨_, origin?_onLine hinOrder hlines line column bias, Mappings.onLine_eq_nil hinOrder,
    ?_, ?_⟩
  · rw [Option.bind_eq_none_iff, ← choose?_sortLine_eq_none_iff]
    simp only [choose?_sortLine_eq_some_iff, follow?_eq_none_iff]
    constructor
    · intro hnowhere
      cases hchosen : choose? (Mappings.sortLine (Mappings.onLine lines line)).toArray (.int column)
          bias with
      | none => exact Or.inl rfl
      | some m =>
          have hm := choose?_sortLine_eq_some_iff.mp hchosen
          exact Or.inr ⟨m, hm, hnowhere m hm⟩
    · rintro (hnone | ⟨m, hm, hnowhere⟩) n hn
      · rw [choose?_sortLine_eq_some_iff.mpr hn] at hnone
        cases hnone
      · rwa [hn.unique hm]
  · intro origin
    rw [Option.bind_eq_some_iff]
    simp only [choose?_sortLine_eq_some_iff, follow?_eq_some_iff]
    constructor
    · rintro ⟨m, hm, p, hp, horigin⟩
      exact ⟨m, p, hm, hp, horigin⟩
    · rintro ⟨m, p, hm, hp, horigin⟩
      exact ⟨m, hm, p, hp, horigin⟩

/-- A source map as an object. Its line has three mappings out of order, two of them in one column,
and the second of these leads to a source that is null. -/
def crossedFields : List (Value × Value) := [
  (.str "version", .int 3), (.str "sources", .list [.str "s", .null]),
  (.str "names", .list [.str "n"]), (.str "mappings", .str "M,JAAAA,ACAA")]

def crossedMap : SourceMap where
  file := .null
  sourceRoot := .str []
  names := [.str "n"]
  sources := [.str "s", .null]
  lines := #[#[⟨1, 2, some ⟨0, 1, 0, some 0⟩⟩, ⟨1, 2, some ⟨1, 1, 0, none⟩⟩, ⟨1, 6, none⟩]]

def crossedLines : List (List Mapping) :=
  [[⟨1, 6, none⟩, ⟨1, 2, some ⟨0, 1, 0, some 0⟩⟩, ⟨1, 2, some ⟨1, 1, 0, none⟩⟩]]

theorem inOrder_crossedLines : Mappings.inOrder "M,JAAAA,ACAA" = .ok crossedLines := by
  decide +kernel

theorem ofValue_crossedFields : ofValue (.map crossedFields) = .ok crossedMap := by
  have hparse : Mappings.parse "M,JAAAA,ACAA" =
      .ok [[⟨1, 2, some ⟨0, 1, 0, some 0⟩⟩, ⟨1, 2, some ⟨1, 1, 0, none⟩⟩, ⟨1, 6, none⟩]] := by
    rw [Mappings.parse_eq_inOrder, inOrder_crossedLines]
    simp [Except.map, crossedLines, Mappings.sortLine, List.mergeSort,
      List.MergeSort.Internal.splitInTwo]
  show ofFields _ "M,JAAAA,ACAA" = _
  rw [ofFields_eq, hparse]
  rfl

theorem origin?_eq_scan_crossedMap :
    ofValue (.map crossedFields) = .ok crossedMap ∧
      crossedMap.origin? (.int 1) (.int 5) .greatestLowerBound = .ok none ∧
      crossedMap.origin? (.int 1) (.int 1) .leastUpperBound =
        .ok (some ⟨.str "s", 1, 0, .str "n"⟩) := by
  obtain ⟨entries, t, lines, hv, ht, hlines, hall⟩ := origin?_eq_scan ofValue_crossedFields
  obtain rfl := Value.map.inj hv
  obtain rfl : "M,JAAAA,ACAA".toList = t := Value.str.inj ht
  obtain rfl : crossedLines = lines := Except.ok.inj (inOrder_crossedLines.symm.trans hlines)
  refine ⟨ofValue_crossedFields, ?_, ?_⟩
  · obtain ⟨answer, hanswer, -, hnone, -⟩ := hall 1 5 .greatestLowerBound
    rw [hanswer, hnone.mpr (Or.inr ⟨⟨1, 2, some ⟨1, 1, 0, none⟩⟩, ⟨by decide, by decide, rfl⟩, ?_⟩)]
    rintro p hp
    obtain rfl := Option.some.inj hp
    exact Or.inr (Or.inr rfl)
  · obtain ⟨answer, hanswer, -, -, hsome⟩ := hall 1 1 .leastUpperBound
    rw [hanswer, (hsome _).mpr ⟨⟨1, 2, some ⟨0, 1, 0, some 0⟩⟩, ⟨0, 1, 0, some 0⟩,
      ⟨by decide, by decide, rfl⟩, rfl, ?_⟩]
    exact .intro (i := 0) rfl rfl (by simp) (.named (i := 0) rfl)

end SourceMap

end LintReport
