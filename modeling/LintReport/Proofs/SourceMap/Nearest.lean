import LintReport.SourceMap.Query
import Mathlib.Data.List.TakeWhile

/-!
# The nearest mapping

A line of mappings is sorted and then searched by halving. What is found that way is what a scan of
the mappings in their textual order finds: of those that stand no further right than a column the
one that stands furthest right, and of several in the same column the last.
-/

namespace LintReport

/-! ## Bisection -/

/-- Where the test changes once from true to false, bisection finds the place of the change. -/
theorem partitionPoint_eq {test : Nat → Bool} {lo hi k : Nat} (hlo : lo ≤ k) (hhi : k ≤ hi)
    (hbefore : ∀ i, lo ≤ i → i < k → test i = true)
    (hafter : ∀ i, k ≤ i → i < hi → test i = false) : partitionPoint test lo hi = k := by
  -- the place of the change never leaves the interval
  fun_induction partitionPoint test lo hi with
  | case1 lo hi hlt middle htest ih =>
      have hmiddle : middle < k := by
        rcases Nat.lt_or_ge middle k with h | h
        · exact h
        · have hfalse := hafter middle h (by omega)
          rw [htest] at hfalse
          exact absurd hfalse (by simp)
      exact ih hmiddle hhi (fun i hi' => hbefore i (by omega)) hafter
  | case2 lo hi hlt middle htest ih =>
      have hmiddle : k ≤ middle := by
        rcases Nat.lt_or_ge middle k with h | h
        · exact absurd (hbefore middle (by omega) h) htest
        · exact h
      exact ih hlo hmiddle hbefore (fun i hi' hlt' => hafter i hi' (by omega))
  | case3 lo hi hge => omega

namespace SourceMap

/-- The mapping that a scan finds for a column: of those that stand no further right the one that
stands furthest right, and of several in the same column the last. -/
def nearest? (column : Int) : List Mapping → Option Mapping
  | [] => none
  | m :: rest =>
    match nearest? column rest with
    | none => if m.generatedColumn ≤ column then some m else none
    | some n =>
      if m.generatedColumn ≤ column ∧ n.generatedColumn < m.generatedColumn then some m else some n

theorem nearest?_eq_none_iff {column : Int} {mappings : List Mapping} :
    nearest? column mappings = none ↔ ∀ m ∈ mappings, column < m.generatedColumn := by
  induction mappings with
  | nil => simp [nearest?]
  | cons m rest ih =>
      rw [nearest?, List.forall_mem_cons]
      cases hrest : nearest? column rest with
      | none =>
          have hnone := ih.mp hrest
          by_cases hm : m.generatedColumn ≤ column
          · simp [hm, Int.not_lt.mpr hm]
          · simp only [hm, if_false, true_iff]
            exact ⟨by omega, hnone⟩
      | some n =>
          have hsome : ¬ ∀ m ∈ rest, column < m.generatedColumn := fun h => by
            simp [ih.mpr h] at hrest
          have hne : ¬ (column < m.generatedColumn ∧ ∀ m ∈ rest, column < m.generatedColumn) :=
            fun h => hsome h.2
          dsimp only
          split <;> simpa using hne

theorem mem_of_nearest? {column : Int} {mappings : List Mapping} {m : Mapping}
    (h : nearest? column mappings = some m) : m ∈ mappings ∧ m.generatedColumn ≤ column := by
  induction mappings with
  | nil => simp [nearest?] at h
  | cons a rest ih =>
      rw [nearest?] at h
      split at h
      · split at h
        · next ha =>
            obtain rfl := Option.some.inj h
            exact ⟨by simp, ha⟩
        · simp at h
      · next n hn =>
          split at h
          · next ha =>
              obtain rfl := Option.some.inj h
              exact ⟨by simp, ha.1⟩
          · obtain ⟨hmem, hle⟩ := ih (hn.trans h)
            exact ⟨List.mem_cons_of_mem _ hmem, hle⟩

/-- The mapping that the scan finds is the last of those in the column `c`, if `c` is the greatest
of the columns that are no greater than the one asked for. -/
theorem nearest?_eq_getLast?_filter {column c : Int} (hc : c ≤ column) {mappings : List Mapping}
    (hmax : ∀ m ∈ mappings, m.generatedColumn ≤ column → m.generatedColumn ≤ c)
    (hmem : ∃ m ∈ mappings, m.generatedColumn = c) :
    nearest? column mappings =
      (mappings.filter fun m => m.generatedColumn = c).getLast? := by
  induction mappings with
  | nil => simp at hmem
  | cons m rest ih =>
      have hmaxRest : ∀ n ∈ rest, n.generatedColumn ≤ column → n.generatedColumn ≤ c :=
        fun n hn => hmax n (List.mem_cons_of_mem _ hn)
      have hm := hmax m (by simp)
      -- the last mapping of the column stands in the rest, or it is `m` itself
      by_cases hrest : ∃ n ∈ rest, n.generatedColumn = c
      · have hlast := ih hmaxRest hrest
        obtain ⟨n, hn, hnc⟩ := hrest
        have hne : rest.filter (fun m => m.generatedColumn = c) ≠ [] :=
          List.ne_nil_of_mem (List.mem_filter.mpr ⟨hn, by simpa using hnc⟩)
        obtain ⟨last, hlastEq⟩ : ∃ last,
            (rest.filter fun m => m.generatedColumn = c).getLast? = some last :=
          ⟨_, List.getLast?_eq_some_getLast hne⟩
        have hlastColumn : last.generatedColumn = c := by
          have hmem' := List.mem_of_getLast? hlastEq
          simpa using (List.mem_filter.mp hmem').2
        rw [nearest?, hlast, hlastEq]
        have hkeep : ¬ (m.generatedColumn ≤ column ∧
            last.generatedColumn < m.generatedColumn) := by omega
        dsimp only
        rw [if_neg hkeep, List.filter_cons]
        split
        · rw [List.getLast?_cons, hlastEq]
          rfl
        · exact hlastEq.symm
      · obtain ⟨n, hn, hnc⟩ := hmem
        have hmc : m.generatedColumn = c := by
          rcases List.mem_cons.mp hn with rfl | hn'
          · exact hnc
          · exact absurd ⟨n, hn', hnc⟩ hrest
        have hempty : rest.filter (fun m => m.generatedColumn = c) = [] := by
          rw [List.filter_eq_nil_iff]
          intro a ha hac
          exact hrest ⟨a, ha, by simpa using hac⟩
        rw [List.filter_cons_of_pos (by simpa using hmc), hempty, nearest?]
        have hle : m.generatedColumn ≤ column := by omega
        cases hfound : nearest? column rest with
        | none => simp [hle]
        | some a =>
            have ha := mem_of_nearest? hfound
            have hac : a.generatedColumn ≠ c := fun h => hrest ⟨a, ha.1, h⟩
            have hlt : a.generatedColumn < m.generatedColumn := by
              have := hmaxRest a ha.1 ha.2
              omega
            simp [hle, hlt]

/-! ## Sorted lines -/

theorem pairwise_sortLine (mappings : List Mapping) :
    (Mappings.sortLine mappings).Pairwise fun a b => a.generatedColumn ≤ b.generatedColumn := by
  have hsorted : (mappings.mergeSort fun a b => a.generatedColumn ≤ b.generatedColumn).Pairwise
      fun a b => decide (a.generatedColumn ≤ b.generatedColumn) = true := by
    apply List.pairwise_mergeSort
    · intro a b c hab hbc
      simp only [decide_eq_true_eq] at hab hbc ⊢
      omega
    · intro a b
      simp only [Bool.or_eq_true, decide_eq_true_eq]
      omega
  simpa [Mappings.sortLine] using hsorted

theorem mem_sortLine {mappings : List Mapping} {m : Mapping} :
    m ∈ Mappings.sortLine mappings ↔ m ∈ mappings :=
  List.mem_mergeSort

/-- Sorting keeps the mappings of each column in their textual order. -/
theorem filter_sortLine (mappings : List Mapping) (c : Int) :
    (Mappings.sortLine mappings).filter (fun m => m.generatedColumn = c) =
      mappings.filter fun m => m.generatedColumn = c := by
  -- sorting is stable, so the column is a part of the sorted line, and there is no more of it there
  have hsub : (mappings.filter fun m => m.generatedColumn = c).Sublist
      (Mappings.sortLine mappings) := by
    apply List.sublist_mergeSort
    · intro a b c hab hbc
      simp only [decide_eq_true_eq] at hab hbc ⊢
      omega
    · intro a b
      simp only [Bool.or_eq_true, decide_eq_true_eq]
      omega
    · apply List.pairwise_of_forall_mem_list
      intro a ha b hb
      have hac := (List.mem_filter.mp ha).2
      have hbc := (List.mem_filter.mp hb).2
      simp only [decide_eq_true_eq] at hac hbc ⊢
      omega
    · exact List.filter_sublist
  have hfilter := hsub.filter fun m => decide (m.generatedColumn = c)
  rw [List.filter_filter] at hfilter
  simp only [Bool.and_self] at hfilter
  have hperm := (List.mergeSort_perm mappings
    (fun a b : Mapping => decide (a.generatedColumn ≤ b.generatedColumn))).filter
      fun m => decide (m.generatedColumn = c)
  exact (hfilter.eq_of_length hperm.length_eq.symm).symm

theorem getElem?_of_lt_length_takeWhile {test : Mapping → Bool} {mappings : List Mapping} {i : Nat}
    (hi : i < (mappings.takeWhile test).length) :
    mappings[i]? = (mappings.takeWhile test)[i]? := by
  have hprefix := List.takeWhile_prefix (l := mappings) test
  have hlt : i < mappings.length := Nat.lt_of_lt_of_le hi hprefix.length_le
  rw [List.getElem?_eq_getElem hi, List.getElem?_eq_getElem hlt, hprefix.getElem hi]

theorem filter_eq_takeWhile {test : Mapping → Bool} {mappings : List Mapping}
    (h : ∀ m ∈ mappings.dropWhile test, test m = false) :
    mappings.filter test = mappings.takeWhile test := by
  have hleft : (mappings.takeWhile test).filter test = mappings.takeWhile test :=
    List.filter_eq_self.mpr fun _ hm => List.mem_takeWhile_imp hm
  have hright : (mappings.dropWhile test).filter test = [] :=
    List.filter_eq_nil_iff.mpr fun m hm => by simp [h m hm]
  conv =>
    lhs
    rw [← List.takeWhile_append_dropWhile (p := test) (l := mappings)]
  rw [List.filter_append, hleft, hright, List.append_nil]

/-- Where a test holds of a beginning of a list and of nothing else, bisection counts the elements of
that beginning. -/
theorem partitionPoint_any {test : Mapping → Bool} {mappings : List Mapping}
    (h : ∀ m ∈ mappings.dropWhile test, test m = false) :
    partitionPoint (fun i => mappings.toArray[i]?.any test) 0 mappings.toArray.size =
      (mappings.takeWhile test).length := by
  have hsplit := (List.takeWhile_append_dropWhile (p := test) (l := mappings)).symm
  have hlength := congrArg List.length hsplit
  rw [List.length_append] at hlength
  have hsize : mappings.toArray.size = mappings.length := by simp
  apply partitionPoint_eq (Nat.zero_le _) (by omega)
  · intro i _ hi
    rw [List.getElem?_toArray, getElem?_of_lt_length_takeWhile hi, List.getElem?_eq_getElem hi]
    exact List.mem_takeWhile_imp (p := test) (List.getElem_mem hi)
  · intro i hi hlt
    have hrest : i - (mappings.takeWhile test).length < (mappings.dropWhile test).length := by
      omega
    have hget : mappings[i]? =
        (mappings.dropWhile test)[i - (mappings.takeWhile test).length]? := by
      conv => lhs; rw [hsplit]
      exact List.getElem?_append_right hi
    rw [List.getElem?_toArray, hget, List.getElem?_eq_getElem hrest]
    exact h _ (List.getElem_mem hrest)

/-- In a sorted line nothing right of a column stands before something left of it. -/
theorem upTo_dropWhile_sortLine (column : Int) (mappings : List Mapping) :
    ∀ m ∈ (Mappings.sortLine mappings).dropWhile (fun m => m.generatedColumn ≤ column),
      decide (m.generatedColumn ≤ column) = false := by
  intro m hm
  have hsorted := (pairwise_sortLine mappings).sublist
    (List.dropWhile_sublist fun m => decide (m.generatedColumn ≤ column))
  cases hdrop : (Mappings.sortLine mappings).dropWhile
      (fun m => decide (m.generatedColumn ≤ column)) with
  | nil => simp [hdrop] at hm
  | cons first rest =>
      have hfirst := List.head_dropWhile_not (fun m : Mapping => decide (m.generatedColumn ≤ column))
        (l := Mappings.sortLine mappings) (by simp [hdrop])
      simp only [hdrop, List.head_cons, decide_eq_false_iff_not] at hfirst
      rw [hdrop] at hm hsorted
      rw [decide_eq_false_iff_not]
      rcases List.mem_cons.mp hm with rfl | hrest
      · exact hfirst
      · have hle := (List.pairwise_cons.mp hsorted).1 m hrest
        omega

theorem choose?_toArray_sortLine (column : Int) (mappings : List Mapping) :
    choose? (Mappings.sortLine mappings).toArray (.int column) .greatestLowerBound =
      ((Mappings.sortLine mappings).filter fun m => m.generatedColumn ≤ column).getLast? := by
  have hdrop := upTo_dropWhile_sortLine column mappings
  generalize Mappings.sortLine mappings = sorted at hdrop ⊢
  have htest : isUpTo sorted.toArray (.int column) =
      fun i => sorted.toArray[i]?.any fun m => decide (m.generatedColumn ≤ column) := by
    funext i
    unfold isUpTo
    congr 1
    funext m
    by_cases h : m.generatedColumn ≤ column
    · simp [Value.Number.ltInt, h, Int.not_lt.mpr h]
    · simp [Value.Number.ltInt, h, Int.not_le.mp h]
  unfold choose?
  rw [htest, partitionPoint_any hdrop, filter_eq_takeWhile hdrop, List.getLast?_eq_getElem?]
  cases hlength : (sorted.takeWhile fun m => decide (m.generatedColumn ≤ column)).length with
  | zero =>
      have hnil := List.eq_nil_of_length_eq_zero hlength
      simp [hnil]
  | succ count =>
      dsimp only
      rw [List.getElem?_toArray, Nat.add_sub_cancel]
      exact getElem?_of_lt_length_takeWhile (by omega)

/-- What the search finds in a sorted line is what the scan finds in the line as it was written. -/
theorem choose?_sortLine (column : Int) (mappings : List Mapping) :
    choose? (Mappings.sortLine mappings).toArray (.int column) .greatestLowerBound =
      nearest? column mappings := by
  rw [choose?_toArray_sortLine]
  cases hlast : ((Mappings.sortLine mappings).filter
      fun m => decide (m.generatedColumn ≤ column)).getLast? with
  | none =>
      have hnil := List.getLast?_eq_none_iff.mp hlast
      rw [List.filter_eq_nil_iff] at hnil
      refine (nearest?_eq_none_iff.mpr fun m hm => ?_).symm
      have hright := hnil m (mem_sortLine.mpr hm)
      simp only [decide_eq_true_eq] at hright
      omega
  | some m =>
      -- `m` stands in the greatest column, and the order within that is the order as written
      obtain ⟨init, hinit⟩ := List.getLast?_eq_some_iff.mp hlast
      have hm : m ∈ (Mappings.sortLine mappings).filter
          fun m => decide (m.generatedColumn ≤ column) := by simp [hinit]
      obtain ⟨hmem, hle⟩ := List.mem_filter.mp hm
      simp only [decide_eq_true_eq] at hle
      have hmax : ∀ a ∈ mappings, a.generatedColumn ≤ column →
          a.generatedColumn ≤ m.generatedColumn := by
        intro a ha hacolumn
        have hsorted := (pairwise_sortLine mappings).filter
          fun m => decide (m.generatedColumn ≤ column)
        have ha' : a ∈ (Mappings.sortLine mappings).filter
            fun m => decide (m.generatedColumn ≤ column) :=
          List.mem_filter.mpr ⟨mem_sortLine.mpr ha, by simpa using hacolumn⟩
        rw [hinit] at hsorted ha'
        rcases List.mem_append.mp ha' with hfirst | hsecond
        · exact (List.pairwise_append.mp hsorted).2.2 a hfirst m (by simp)
        · exact Int.le_of_eq (congrArg Mapping.generatedColumn (List.mem_singleton.mp hsecond))
      rw [nearest?_eq_getLast?_filter hle hmax ⟨m, mem_sortLine.mp hmem, rfl⟩, ← filter_sortLine]
      have hcolumn : (Mappings.sortLine mappings).filter
            (fun a => decide (a.generatedColumn = m.generatedColumn)) =
          ((Mappings.sortLine mappings).filter fun a => decide (a.generatedColumn ≤ column)).filter
            fun a => decide (a.generatedColumn = m.generatedColumn) := by
        rw [List.filter_filter]
        apply List.filter_congr
        intro a _
        rw [Bool.eq_iff_iff, Bool.and_eq_true]
        simp only [decide_eq_true_eq]
        omega
      rw [hcolumn, hinit, List.filter_append, List.getLast?_append]
      simp

end SourceMap

end LintReport
