import LintReport.Proofs.SourceMap.Sums

/-!
# The bounds of origins

Lines of a source count from one and its columns from zero, but nothing in the reading of mappings
sees to it: a place is a sum of differences of either sign. So whether the answers of a source map
are positions is a matter of these sums. Main statement: all answers are positions if and only if the
sums are not negative up to each segment that an answer can be taken from.
-/

namespace LintReport

/-! ## Bisection -/

/-- Whatever the test, bisection ends between an index of which it is true and one of which it is
not, unless it ends at a border of the range. -/
theorem partitionPoint_boundary (test : Nat → Bool) {lo hi : Nat} (h : lo ≤ hi) :
    partitionPoint test lo hi ≤ hi ∧
      (partitionPoint test lo hi < hi → test (partitionPoint test lo hi) = false) ∧
      (lo < partitionPoint test lo hi → test (partitionPoint test lo hi - 1) = true) := by
  have hlow : ∀ lo hi, lo ≤ hi → lo ≤ partitionPoint test lo hi := by
    intro lo hi hle
    fun_induction partitionPoint test lo hi with
    | case1 lo hi hlt middle htest ih => exact Nat.le_trans (by omega) (ih (by omega))
    | case2 lo hi hlt middle htest ih => exact ih (by omega)
    | case3 lo hi hge => exact Nat.le_refl lo
  fun_induction partitionPoint test lo hi with
  | case1 lo hi hlt middle htest ih =>
      obtain ⟨hle, hfalse, htrue⟩ := ih (by omega)
      have hmiddle := hlow (middle + 1) hi (by omega)
      refine ⟨hle, hfalse, fun _ => ?_⟩
      -- the point is the one next to the middle, or lies further on
      rcases Nat.lt_or_eq_of_le hmiddle with hlater | hnext
      · exact htrue hlater
      · rw [← hnext]
        exact htest
  | case2 lo hi hlt middle htest ih =>
      obtain ⟨hle, hfalse, htrue⟩ := ih (by omega)
      refine ⟨by omega, fun _ => ?_, htrue⟩
      rcases Nat.lt_or_eq_of_le hle with hearlier | hmiddle
      · exact hfalse hearlier
      · rw [hmiddle]
        simpa using htest
  | case3 lo hi hge =>
      exact ⟨h, fun hlt => absurd hlt hge, fun hlt => absurd hlt (Nat.lt_irrefl lo)⟩

namespace SourceMap

/-! ## The border of a column -/

variable {bias : Bias} {mappings before after : List Mapping} {m : Mapping}

theorem getLast?_filter_of_after (h : ∀ n ∈ after, n.generatedColumn ≠ m.generatedColumn) :
    ((before ++ m :: after).filter fun a => a.generatedColumn = m.generatedColumn).getLast? =
      some m := by
  have hafter : after.filter (fun a => a.generatedColumn = m.generatedColumn) = [] :=
    List.filter_eq_nil_iff.mpr fun n hn => by simpa using h n hn
  rw [List.filter_append, List.filter_cons_of_pos (by simp), hafter, List.getLast?_append]
  rfl

theorem head?_filter_of_before (h : ∀ n ∈ before, n.generatedColumn ≠ m.generatedColumn) :
    ((before ++ m :: after).filter fun a => a.generatedColumn = m.generatedColumn).head? =
      some m := by
  have hbefore : before.filter (fun a => a.generatedColumn = m.generatedColumn) = [] :=
    List.filter_eq_nil_iff.mpr fun n hn => by simpa using h n hn
  rw [List.filter_append, hbefore, List.nil_append, List.filter_cons_of_pos (by simp)]
  rfl

/-- Where a sorted line leaves a column, it does not come back to it. -/
theorem column_ne_of_head?_ne
    (hsorted : (m :: after).Pairwise fun a b => a.generatedColumn ≤ b.generatedColumn)
    (hleaves : ∀ n, after.head? = some n → n.generatedColumn ≠ m.generatedColumn) :
    ∀ a ∈ after, a.generatedColumn ≠ m.generatedColumn := by
  intro a ha
  cases after with
  | nil => cases ha
  | cons n after =>
      obtain ⟨hm, hrest⟩ := List.pairwise_cons.mp hsorted
      have hmn := hm n List.mem_cons_self
      have hne := hleaves n rfl
      rcases List.mem_cons.mp ha with rfl | ha
      · exact hne
      · have hna := (List.pairwise_cons.mp hrest).1 a ha
        omega

/-- Where a sorted line enters a column, it has not been there before. -/
theorem column_ne_of_getLast?_ne
    (hsorted : (before ++ [m]).Pairwise fun a b => a.generatedColumn ≤ b.generatedColumn)
    (henters : ∀ n, before.getLast? = some n → n.generatedColumn ≠ m.generatedColumn) :
    ∀ a ∈ before, a.generatedColumn ≠ m.generatedColumn := by
  intro a ha
  obtain ⟨hbefore, -, hall⟩ := List.pairwise_append.mp hsorted
  cases hlast : before.getLast? with
  | none =>
      rw [List.getLast?_eq_none_iff.mp hlast] at ha
      cases ha
  | some n =>
      have hne := henters n hlast
      obtain ⟨init, rfl⟩ := List.getLast?_eq_some_iff.mp hlast
      have hnm := hall n (by simp) m List.mem_cons_self
      rcases List.mem_append.mp ha with ha | ha
      · have han := (List.pairwise_append.mp hbefore).2.2 a ha n (by simp)
        omega
      · rw [List.mem_singleton.mp ha]
        exact hne

theorem eq_take_cons_drop {α : Type} {xs : List α} {i : Nat} {x : α} (h : xs[i]? = some x) :
    xs = xs.take i ++ x :: xs.drop (i + 1) := by
  obtain ⟨hlt, rfl⟩ := List.getElem?_eq_some_iff.mp h
  rw [← List.drop_eq_getElem_cons hlt, List.take_append_drop]

variable {sorted : List Mapping} {column : Value.Number}

theorem getLast?_of_choose?
    (hsorted : sorted.Pairwise fun a b => a.generatedColumn ≤ b.generatedColumn)
    (h : choose? sorted.toArray column .greatestLowerBound = some m) :
    (sorted.filter fun a => a.generatedColumn = m.generatedColumn).getLast? = some m := by
  obtain ⟨-, hafter, hbefore⟩ := partitionPoint_boundary (isUpTo sorted.toArray column)
    (Nat.zero_le sorted.toArray.size)
  unfold choose? at h
  dsimp only at h
  cases hpoint : partitionPoint (isUpTo sorted.toArray column) 0 sorted.toArray.size with
  | zero =>
      rw [hpoint] at h
      cases h
  | succ count =>
      rw [hpoint] at h hafter hbefore
      dsimp only at h
      rw [List.getElem?_toArray] at h
      rw [eq_take_cons_drop h] at hsorted ⊢
      refine getLast?_filter_of_after (column_ne_of_head?_ne
        (List.pairwise_append.mp hsorted).2.1 fun n hn heq => ?_)
      -- the next one is not up to the column of the question, and so in another column
      rw [List.head?_drop] at hn
      have hlt := (List.getElem?_eq_some_iff.mp hn).1
      have hm := hbefore (Nat.succ_pos count)
      have hn' := hafter (by simpa using hlt)
      rw [Nat.add_sub_cancel, isUpTo, List.getElem?_toArray, h] at hm
      rw [isUpTo, List.getElem?_toArray, hn, Option.any_some, heq] at hn'
      rw [Option.any_some, hn'] at hm
      cases hm

theorem head?_of_choose?
    (hsorted : sorted.Pairwise fun a b => a.generatedColumn ≤ b.generatedColumn)
    (h : choose? sorted.toArray column .leastUpperBound = some m) :
    (sorted.filter fun a => a.generatedColumn = m.generatedColumn).head? = some m := by
  obtain ⟨-, hafter, hbefore⟩ := partitionPoint_boundary (isBefore sorted.toArray column)
    (Nat.zero_le sorted.toArray.size)
  unfold choose? at h
  dsimp only at h
  generalize partitionPoint (isBefore sorted.toArray column) 0 sorted.toArray.size = count
    at h hafter hbefore
  rw [List.getElem?_toArray] at h
  have hlt := (List.getElem?_eq_some_iff.mp h).1
  rw [eq_take_cons_drop h] at hsorted ⊢
  rw [List.append_cons] at hsorted
  refine head?_filter_of_before (column_ne_of_getLast?_ne
    (List.pairwise_append.mp hsorted).1 fun n hn heq => ?_)
  cases count with
  | zero => cases hn
  | succ count =>
      -- the one in front is before the column of the question, and so in another column
      have hlast : sorted[count]? = some n := by
        rw [List.getLast?_take] at hn
        simpa [List.getElem?_eq_getElem (Nat.lt_of_succ_lt hlt)] using hn
      have hn' := hbefore (Nat.succ_pos count)
      have hm := hafter (by simpa using hlt)
      rw [Nat.add_sub_cancel, isBefore, List.getElem?_toArray, hlast] at hn'
      rw [isBefore, List.getElem?_toArray, h, Option.any_some, ← heq] at hm
      rw [Option.any_some, hm] at hn'
      cases hn'

/-- What is chosen, for a number of any kind, is the last or the first of its column. -/
theorem preferred?_of_choose?
    (h : choose? (Mappings.sortLine mappings).toArray column bias = some m) :
    bias.preferred? (mappings.filter fun a => a.generatedColumn = m.generatedColumn) = some m := by
  rw [← filter_sortLine]
  cases bias with
  | greatestLowerBound => exact getLast?_of_choose? (pairwise_sortLine mappings) h
  | leastUpperBound => exact head?_of_choose? (pairwise_sortLine mappings) h

/-- One of the biases prefers a mapping if no later one of its line stands in its column, or no
earlier one. -/
theorem exists_preferred?_iff :
    (∃ bias : Bias,
        bias.preferred? (mappings.filter fun a => a.generatedColumn = m.generatedColumn) = some m) ↔
      ∃ j : Nat, mappings[j]? = some m ∧
        ((∀ k, ∀ n : Mapping, j < k → mappings[k]? = some n →
            n.generatedColumn ≠ m.generatedColumn) ∨
          ∀ k, ∀ n : Mapping, k < j → mappings[k]? = some n →
            n.generatedColumn ≠ m.generatedColumn) := by
  constructor
  · rintro ⟨bias, h⟩
    cases bias with
    | greatestLowerBound =>
        obtain ⟨-, after, before, hreverse, hafter⟩ := List.find?_eq_some_iff_append.mp
          (List.getLast?_filter.symm.trans h)
        obtain rfl : mappings = before.reverse ++ m :: after.reverse := by
          rw [← List.reverse_reverse mappings, hreverse]
          simp
        refine ⟨before.reverse.length, by simp, Or.inl fun k n hk hn heq => ?_⟩
        rw [List.getElem?_append_right (by omega)] at hn
        obtain ⟨d, hd⟩ : ∃ d, k - before.reverse.length = d + 1 :=
          ⟨k - before.reverse.length - 1, by omega⟩
        rw [hd, List.getElem?_cons_succ] at hn
        have hmem := List.mem_reverse.mp (List.mem_of_getElem? hn)
        simpa [heq] using hafter n hmem
    | leastUpperBound =>
        obtain ⟨-, before, after, rfl, hbefore⟩ := List.find?_eq_some_iff_append.mp
          (List.head?_filter.symm.trans h)
        refine ⟨before.length, by simp, Or.inr fun k n hk hn heq => ?_⟩
        rw [List.getElem?_append_left hk] at hn
        simpa [heq] using hbefore n (List.mem_of_getElem? hn)
  · rintro ⟨j, hj, hlater | hearlier⟩
    · refine ⟨.greatestLowerBound, ?_⟩
      rw [eq_take_cons_drop hj]
      refine getLast?_filter_of_after fun n hn => ?_
      obtain ⟨d, hd⟩ := List.getElem?_of_mem hn
      rw [List.getElem?_drop] at hd
      exact hlater (j + 1 + d) n (by omega) hd
    · refine ⟨.leastUpperBound, ?_⟩
      rw [eq_take_cons_drop hj]
      refine head?_filter_of_before fun n hn => ?_
      obtain ⟨d, hd⟩ := List.getElem?_of_mem hn
      have hlt : d < j := by
        have hlength := (List.getElem?_eq_some_iff.mp hd).1
        rw [List.length_take] at hlength
        omega
      rw [List.getElem?_take_of_lt hlt] at hd
      exact hearlier d n hlt hd

/-! ## Answers -/

/-- The column of the segment with the index `j` in a line: the sum of the first fields up to it. -/
def columnAt (segments : List (List Int)) (j : Nat) : Int :=
  Mappings.fieldSum 0 (segments.take (j + 1))

/-- That an answer can be taken from the segment with the index `j` in the line with the index `i`:
it has a place, whose source is in the list of sources and is not null, and no later segment of the
line stands in its column, or no earlier one. -/
inductive CanAnswer (sourceMap : SourceMap) (lines : List (List (List Int))) (i j : Nat) :
    Prop where
  | intro {segments : List (List Int)} {fields : List Int} {number : Nat} {source : Value}
      (hline : lines[i]? = some segments) (hfields : segments[j]? = some fields)
      (hplace : fields.length ≠ 1)
      (hnumber : Mappings.fieldSum 1 (Mappings.upTo lines i j) = number)
      (hsource : sourceMap.sources[number]? = some source) (hne : source ≠ .null)
      (hedge : (∀ k < segments.length, j < k → columnAt segments k ≠ columnAt segments j) ∨
        ∀ k < j, columnAt segments k ≠ columnAt segments j)

variable {sourceMap : SourceMap} {lines : List (List (List Int))} {i j : Nat}

/-- An answer to a question of any kind is where a mapping leads that is chosen on some line. -/
theorem exists_choice_of_origin? {line column : Value} {origin : Origin}
    (h : sourceMap.origin? line column bias = .ok (some origin)) :
    ∃ (i : Nat) (row : Array Mapping) (c : Value.Number) (m : Mapping),
      sourceMap.lines[i]? = some row ∧ choose? row c bias = some m ∧
        sourceMap.follow? m = some origin := by
  unfold origin? at h
  split at h
  · cases h
  · cases h
  · split at h
    · cases h
    · next number hnumber =>
        split at h
        · cases h
        · cases h
        · next row hrow =>
            split at h
            · cases h
            · split at h
              · cases h
              · next c hc =>
                  obtain ⟨m, hm, hfollow⟩ := Option.bind_eq_some_iff.mp (Except.ok.inj h)
                  have hline : ∃ i : Nat, sourceMap.lines[i]? = some row := by
                    unfold line? at hrow
                    split at hrow
                    · cases hrow
                    · split at hrow
                      · exact ⟨_, Except.ok.inj hrow⟩
                      · cases hrow
                  obtain ⟨i, hi⟩ := hline
                  exact ⟨i, row, c, m, hi, hm, hfollow⟩

theorem getElem?_summedLine (lines : List (List (List Int))) (i : Nat)
    (segments : List (List Int)) (j : Nat) :
    (Mappings.summedLine lines i segments)[j]? = segments[j]?.map
      (Mappings.mappingOf (i + 1) (segments.take (j + 1)) (Mappings.upTo lines i j)) := by
  rw [Mappings.summedLine, List.getElem?_mapIdx]

theorem getElem?_summedLines (lines : List (List (List Int))) (i : Nat) :
    (Mappings.summedLines lines)[i]? = lines[i]?.map (Mappings.summedLine lines i) := by
  rw [Mappings.summedLines, List.getElem?_mapIdx]

/-- The mappings that a bias prefers in their columns, by the columns as sums. -/
theorem edge_iff {segments : List (List Int)} (hj : j < segments.length) :
    ((∀ k, ∀ n : Mapping, j < k → (Mappings.summedLine lines i segments)[k]? = some n →
          n.generatedColumn ≠ columnAt segments j) ∨
        ∀ k, ∀ n : Mapping, k < j → (Mappings.summedLine lines i segments)[k]? = some n →
          n.generatedColumn ≠ columnAt segments j) ↔
      (∀ k < segments.length, j < k → columnAt segments k ≠ columnAt segments j) ∨
        ∀ k < j, columnAt segments k ≠ columnAt segments j := by
  have hfound : ∀ k < segments.length, ∃ n : Mapping,
      (Mappings.summedLine lines i segments)[k]? = some n ∧
        n.generatedColumn = columnAt segments k := by
    intro k hk
    rw [getElem?_summedLine, List.getElem?_eq_getElem hk]
    exact ⟨_, rfl, rfl⟩
  have hcolumn : ∀ k, ∀ n : Mapping, (Mappings.summedLine lines i segments)[k]? = some n →
      k < segments.length ∧ n.generatedColumn = columnAt segments k := by
    intro k n hn
    rw [getElem?_summedLine] at hn
    obtain ⟨fields, hfields, rfl⟩ := Option.map_eq_some_iff.mp hn
    exact ⟨(List.getElem?_eq_some_iff.mp hfields).1, rfl⟩
  constructor
  · rintro (hlater | hearlier)
    · refine Or.inl fun k hk hjk => ?_
      obtain ⟨n, hn, hcol⟩ := hfound k hk
      rw [← hcol]
      exact hlater k n hjk hn
    · refine Or.inr fun k hkj => ?_
      obtain ⟨n, hn, hcol⟩ := hfound k (Nat.lt_trans hkj hj)
      rw [← hcol]
      exact hearlier k n hkj hn
  · rintro (hlater | hearlier)
    · refine Or.inl fun k n hjk hn => ?_
      obtain ⟨hk, hcol⟩ := hcolumn k n hn
      rw [hcol]
      exact hlater k hk hjk
    · refine Or.inr fun k n hkj hn => ?_
      rw [(hcolumn k n hn).2]
      exact hearlier k hkj

/-- Every answer is a sum over the segments up to one that it can be taken from. -/
theorem canAnswer_of_origin?
    (hlines : sourceMap.lines =
      (((Mappings.summedLines lines).map Mappings.sortLine).map List.toArray).toArray)
    {line column : Value} {origin : Origin}
    (h : sourceMap.origin? line column bias = .ok (some origin)) :
    ∃ i j, CanAnswer sourceMap lines i j ∧
      origin.line = Mappings.fieldSum 2 (Mappings.upTo lines i j) + 1 ∧
      origin.column = Mappings.fieldSum 3 (Mappings.upTo lines i j) := by
  obtain ⟨i, sorted, c, m, hsorted, hchoose, hfollow⟩ := exists_choice_of_origin? h
  rw [hlines, List.getElem?_toArray, List.getElem?_map, List.getElem?_map,
    getElem?_summedLines] at hsorted
  cases hline : lines[i]? with
  | none =>
      rw [hline] at hsorted
      cases hsorted
  | some segments =>
      rw [hline] at hsorted
      obtain rfl := Option.some.inj hsorted
      -- what is chosen is the last or the first of its column, in the order of the text
      obtain ⟨j, hj, hedge⟩ := exists_preferred?_iff.mp ⟨bias, preferred?_of_choose? hchoose⟩
      rw [getElem?_summedLine] at hj
      obtain ⟨fields, hfields, rfl⟩ := Option.map_eq_some_iff.mp hj
      obtain ⟨p, hp, hleads⟩ := follow?_eq_some_iff.mp hfollow
      by_cases hlength : fields.length = 1
      · simp [Mappings.mappingOf, hlength] at hp
      · rw [Mappings.mappingOf, if_neg hlength] at hp
        obtain rfl := Option.some.inj hp
        obtain ⟨hnumber, hsource, hne, -⟩ := hleads
        have hlt := (List.getElem?_eq_some_iff.mp hfields).1
        exact ⟨i, j, .intro hline hfields hlength hnumber hsource hne ((edge_iff hlt).mp hedge),
          rfl, rfl⟩

/-- A place whose source is there leads to an origin with its line and its column. -/
theorem exists_follow?_of_place {m : Mapping} {p : Place} {number : Nat} {source : Value}
    (hplace : m.place = some p) (hnumber : p.source = number)
    (hsource : sourceMap.sources[number]? = some source) (hne : source ≠ .null) :
    ∃ origin, sourceMap.follow? m = some origin ∧ origin.line = p.line ∧
      origin.column = p.column :=
  ⟨_, follow?_eq_some_iff.mpr ⟨p, hplace, .intro hnumber hsource hne (nameAt_iff.mpr rfl)⟩,
    rfl, rfl⟩

/-- From a segment that can answer an answer is taken for its own column. -/
theorem exists_origin?_of_canAnswer
    (hlines : sourceMap.lines =
      (((Mappings.summedLines lines).map Mappings.sortLine).map List.toArray).toArray)
    (h : CanAnswer sourceMap lines i j) :
    ∃ line column bias origin, sourceMap.origin? line column bias = .ok (some origin) ∧
      origin.line = Mappings.fieldSum 2 (Mappings.upTo lines i j) + 1 ∧
      origin.column = Mappings.fieldSum 3 (Mappings.upTo lines i j) := by
  obtain ⟨hline, hfields, hlength, hnumber, hsource, hne, hedge⟩ := h
  rename_i segments fields number source
  have hlt := (List.getElem?_eq_some_iff.mp hfields).1
  have hj := getElem?_summedLine lines i segments j
  rw [hfields, Option.map_some] at hj
  obtain ⟨bias, hbias⟩ := exists_preferred?_iff.mpr ⟨j, hj, (edge_iff hlt).mpr hedge⟩
  have hallowed : bias.Allows (columnAt segments j) (columnAt segments j) := by
    cases bias <;> exact Int.le_refl _
  have hchoose := choose?_sortLine_eq_some_iff.mpr
    (⟨hallowed, fun _ _ ha => ha, hbias⟩ :
      bias.Chooses (columnAt segments j) (Mappings.summedLine lines i segments) _)
  obtain ⟨origin, hfollow, horigin⟩ := exists_follow?_of_place
    (show (Mappings.mappingOf (i + 1) (segments.take (j + 1)) (Mappings.upTo lines i j)
      fields).place = some _ from if_neg hlength) hnumber hsource hne
  refine ⟨.int (i + 1), .int (columnAt segments j), bias, origin, ?_, horigin⟩
  have hindex : ((i : Int) + 1 - 1).toNat = i := by omega
  rw [origin?_int, if_pos (by omega), hlines, hindex, List.getElem?_toArray, List.getElem?_map,
    List.getElem?_map, getElem?_summedLines, hline]
  dsimp only [Option.map_some, Option.bind_some]
  rw [hchoose, Option.bind_some, hfollow]

/-- Every answer of an accepted source map is a position, with a line from one and a column from
zero, if and only if the third fields and the fourth fields have no negative sum up to any segment
that an answer can be taken from. -/
theorem origins_inBounds_iff {v : Value} (h : ofValue v = .ok sourceMap) :
    ∃ entries t, v = .map entries ∧ Value.namedD entries "mappings" = .str t ∧
      ((∀ line column bias origin, sourceMap.origin? line column bias = .ok (some origin) →
          1 ≤ origin.line ∧ 0 ≤ origin.column) ↔
        ∀ i j, CanAnswer sourceMap (Mappings.fieldLines t) i j →
          0 ≤ Mappings.fieldSum 2 (Mappings.upTo (Mappings.fieldLines t) i j) ∧
            0 ≤ Mappings.fieldSum 3 (Mappings.upTo (Mappings.fieldLines t) i j)) := by
  obtain ⟨entries, t, lines, hv, ht, hinOrder, hlines⟩ := exists_inOrder_of_ofValue h
  obtain ⟨-, rfl⟩ := Mappings.inOrder_eq_ok_iff.mp hinOrder
  refine ⟨entries, t, hv, ht, ?_, ?_⟩
  · intro hbounds i j hanswer
    obtain ⟨line, column, bias, origin, horigin, hline, hcolumn⟩ :=
      exists_origin?_of_canAnswer hlines hanswer
    have hbound := hbounds line column bias origin horigin
    omega
  · intro hsums line column bias origin horigin
    obtain ⟨i, j, hanswer, hline, hcolumn⟩ := canAnswer_of_origin? hlines horigin
    have hsum := hsums i j hanswer
    omega

/-- A source map as an object. Its three segments stand in one column, and only the one in the
middle leads above the first line of the source. -/
def coveredFields : List (Value × Value) := [
  (.str "version", .int 3), (.str "sources", .list [.str "s"]),
  (.str "mappings", .str "AAAA,AADD,AACC")]

def coveredMap : SourceMap where
  file := .null
  sourceRoot := .str []
  names := []
  sources := [.str "s"]
  lines := #[#[⟨1, 0, some ⟨0, 1, 0, none⟩⟩, ⟨1, 0, some ⟨0, 0, -1, none⟩⟩,
    ⟨1, 0, some ⟨0, 1, 0, none⟩⟩]]

theorem ofValue_coveredFields : ofValue (.map coveredFields) = .ok coveredMap := by
  have hparse : Mappings.parse "AAAA,AADD,AACC" = .ok [[⟨1, 0, some ⟨0, 1, 0, none⟩⟩,
      ⟨1, 0, some ⟨0, 0, -1, none⟩⟩, ⟨1, 0, some ⟨0, 1, 0, none⟩⟩]] := by
    have hinOrder : Mappings.inOrder "AAAA,AADD,AACC" = .ok [[⟨1, 0, some ⟨0, 1, 0, none⟩⟩,
        ⟨1, 0, some ⟨0, 0, -1, none⟩⟩, ⟨1, 0, some ⟨0, 1, 0, none⟩⟩]] := by decide +kernel
    rw [Mappings.parse_eq_inOrder, hinOrder]
    simp [Except.map, Mappings.sortLine, List.mergeSort, List.MergeSort.Internal.splitInTwo]
  show ofFields _ "AAAA,AADD,AACC" = _
  rw [ofFields_eq, hparse]
  rfl

theorem origins_inBounds_iff_coveredMap :
    ofValue (.map coveredFields) = .ok coveredMap ∧
      ∀ line column bias origin, coveredMap.origin? line column bias = .ok (some origin) →
        1 ≤ origin.line ∧ 0 ≤ origin.column := by
  obtain ⟨entries, t, hv, ht, hiff⟩ := origins_inBounds_iff ofValue_coveredFields
  obtain rfl := Value.map.inj hv
  obtain rfl : "AAAA,AADD,AACC".toList = t := Value.str.inj ht
  have hlines : Mappings.fieldLines "AAAA,AADD,AACC" =
      [[[0, 0, 0, 0], [0, 0, -1, -1], [0, 0, 1, 1]]] := by decide +kernel
  refine ⟨ofValue_coveredFields, hiff.mpr ?_⟩
  rw [hlines]
  rintro i j ⟨hline, hfields, -, -, -, -, hedge⟩
  obtain rfl : i = 0 := by
    have hlt := (List.getElem?_eq_some_iff.mp hline).1
    simpa using hlt
  obtain rfl := Option.some.inj hline
  have hlt : j < 3 := (List.getElem?_eq_some_iff.mp hfields).1
  obtain rfl | rfl | rfl : j = 0 ∨ j = 1 ∨ j = 2 := by omega
  · decide
  · -- the one in the middle is neither the last nor the first of its column
    exact absurd hedge (by decide)
  · decide

def outsideFields : List (Value × Value) := [
  (.str "version", .int 3), (.str "sources", .list [.str "s"]), (.str "mappings", .str "AADD")]

def outsideMap : SourceMap where
  file := .null
  sourceRoot := .str []
  names := []
  sources := [.str "s"]
  lines := #[#[⟨1, 0, some ⟨0, 0, -1, none⟩⟩]]

/-- An accepted source map may give an answer that is no position. -/
theorem origin?_outsideMap :
    ofValue (.map outsideFields) = .ok outsideMap ∧
      outsideMap.origin? (.int 1) (.int 0) .greatestLowerBound =
        .ok (some ⟨.str "s", 0, -1, .null⟩) := by
  have hparse : Mappings.parse "AADD" = .ok [[⟨1, 0, some ⟨0, 0, -1, none⟩⟩]] := by decide +kernel
  constructor
  · show ofFields _ "AADD" = _
    rw [ofFields_eq, hparse]
    rfl
  · with_unfolding_all rfl

end SourceMap

end LintReport
