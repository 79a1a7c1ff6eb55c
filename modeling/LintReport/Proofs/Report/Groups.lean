import LintReport.Report.Grouping
import Mathlib.Data.List.Induction

/-!
# Groups of a list

Groups are made by inserting one diagnostic after the other. What they are can be said without that:
the sources are those of the list, each where it comes first, and the group of a source is what the
list has for it.
-/

namespace LintReport.Groups

variable {s t : Text} {d : Diagnostic} {groups : Groups}

theorem sources_insert (s : Text) (d : Diagnostic) (groups : Groups) :
    (insert s d groups).map Prod.fst =
      if s ∈ groups.map Prod.fst then groups.map Prod.fst else groups.map Prod.fst ++ [s] := by
  induction groups with
  | nil => rfl
  | cons group rest ih =>
      obtain ⟨t, ds⟩ := group
      by_cases hts : t = s
      · simp [insert, hts]
      · have hst : ¬ s = t := fun h => hts h.symm
        rw [insert, if_neg hts, List.map_cons, ih, List.map_cons]
        by_cases hmem : s ∈ rest.map Prod.fst
        · rw [if_pos hmem, if_pos (List.mem_cons_of_mem _ hmem)]
        · rw [if_neg hmem, if_neg (by simp [hst, hmem]), List.cons_append]

theorem lookup_insert (s t : Text) (d : Diagnostic) (groups : Groups) :
    (insert s d groups).lookup t =
      if t = s then some ((groups.lookup s).getD [] ++ [d]) else groups.lookup t := by
  induction groups with
  | nil =>
      by_cases hts : t = s
      · simp [insert, hts]
      · have hne : (t == s) = false := beq_false_of_ne hts
        simp [insert, List.lookup_cons, hne, hts]
  | cons group rest ih =>
      obtain ⟨u, ds⟩ := group
      by_cases hus : u = s
      · subst hus
        by_cases htu : t = u
        · simp [insert, htu]
        · have hne : (t == u) = false := beq_false_of_ne htu
          simp [insert, List.lookup_cons, hne, htu]
      · have hsu : (s == u) = false := beq_false_of_ne (Ne.symm hus)
        rw [insert, if_neg hus, List.lookup_cons, List.lookup_cons, List.lookup_cons, ih, hsu]
        by_cases htu : t = u
        · subst htu
          simp [hus]
        · have hne : (t == u) = false := beq_false_of_ne htu
          simp [hne]

/-- Inserting a diagnostic adds it to what the groups hold together, and nothing else. -/
theorem perm_diagnostics_insert (s : Text) (d : Diagnostic) (groups : Groups) :
    (insert s d groups).diagnostics.Perm (d :: groups.diagnostics) := by
  induction groups with
  | nil => exact List.Perm.refl [d]
  | cons group rest ih =>
      obtain ⟨t, ds⟩ := group
      unfold diagnostics at ih ⊢
      by_cases hts : t = s
      · rw [insert, if_pos hts, List.flatMap_cons, List.flatMap_cons, List.append_assoc]
        exact List.perm_middle
      · rw [insert, if_neg hts, List.flatMap_cons, List.flatMap_cons]
        exact (ih.append_left ds).trans List.perm_middle

theorem ne_nil_of_mem_insert (h : ∀ group ∈ groups, group.2 ≠ []) :
    ∀ group ∈ insert s d groups, group.2 ≠ [] := by
  induction groups with
  | nil => simp [insert]
  | cons group rest ih =>
      obtain ⟨t, ds⟩ := group
      rw [List.forall_mem_cons] at h
      by_cases hts : t = s
      · rw [insert, if_pos hts, List.forall_mem_cons]
        exact ⟨by simp, h.2⟩
      · rw [insert, if_neg hts, List.forall_mem_cons]
        exact ⟨h.1, ih h.2⟩

/-- What goes to none of the first groups goes to those behind them. -/
theorem insert_append {before : Groups} (hs : s ∉ before.map Prod.fst) :
    insert s d (before ++ groups) = before ++ insert s d groups := by
  induction before with
  | nil => rfl
  | cons group rest ih =>
      obtain ⟨t, ds⟩ := group
      rw [List.map_cons, List.mem_cons, not_or] at hs
      rw [List.cons_append, insert, if_neg (Ne.symm hs.1), ih hs.2, List.cons_append]

/-- Groups are made by one insertion after the other. -/
theorem ofList_concat (located : List (Text × Diagnostic)) (entry : Text × Diagnostic) :
    ofList (located ++ [entry]) = insert entry.1 entry.2 (ofList located) := by
  rw [ofList, List.foldl_append]
  rfl

theorem sources_ofList (located : List (Text × Diagnostic)) :
    (ofList located).map Prod.fst = (located.map Prod.fst).eraseDups := by
  induction located using List.reverseRecOn with
  | nil => rfl
  | append_singleton located entry ih =>
      rw [ofList_concat, sources_insert, ih, List.map_append, List.eraseDups_append]
      by_cases hmem : entry.1 ∈ located.map Prod.fst
      · rw [if_pos (List.mem_eraseDups.mpr hmem)]
        simp [List.removeAll, hmem]
      · rw [if_neg (fun h => hmem (List.mem_eraseDups.mp h))]
        simp [List.removeAll, hmem, List.eraseDups_cons]

theorem mem_sources_ofList {located : List (Text × Diagnostic)} :
    s ∈ (ofList located).map Prod.fst ↔ s ∈ located.map Prod.fst := by
  rw [sources_ofList, List.mem_eraseDups]

theorem nodup_sources_ofList (located : List (Text × Diagnostic)) :
    ((ofList located).map Prod.fst).Nodup := by
  induction located using List.reverseRecOn with
  | nil => exact List.nodup_nil
  | append_singleton located entry ih =>
      rw [ofList_concat, sources_insert]
      split
      · exact ih
      · next hmem =>
          rw [List.nodup_append]
          refine ⟨ih, by simp, ?_⟩
          intro s hs t ht heq
          obtain rfl := List.mem_singleton.mp ht
          exact hmem (heq ▸ hs)

/-- Lists without a common source are grouped separately. -/
theorem ofList_append {first second : List (Text × Diagnostic)}
    (h : ∀ s ∈ first.map Prod.fst, s ∉ second.map Prod.fst) :
    ofList (first ++ second) = ofList first ++ ofList second := by
  induction second using List.reverseRecOn with
  | nil =>
      have hnil : ofList [] = [] := rfl
      rw [List.append_nil, hnil, List.append_nil]
  | append_singleton second entry ih =>
      have hentry : entry.1 ∉ (ofList first).map Prod.fst := by
        intro hmem
        exact h entry.1 (mem_sources_ofList.mp hmem) (by simp)
      have hsecond : ∀ s ∈ first.map Prod.fst, s ∉ second.map Prod.fst := by
        intro s hs hmem
        refine h s hs ?_
        rw [List.map_append, List.mem_append]
        exact Or.inl hmem
      rw [← List.append_assoc, ofList_concat, ofList_concat, ih hsecond, insert_append hentry]

/-- The group of a source holds what was located there, in the same order. -/
theorem lookup_ofList (located : List (Text × Diagnostic)) (s : Text) :
    ((ofList located).lookup s).getD [] =
      located.filterMap fun entry => if entry.1 = s then some entry.2 else none := by
  induction located using List.reverseRecOn with
  | nil => rfl
  | append_singleton located entry ih =>
      rw [ofList_concat, lookup_insert, List.filterMap_append, ← ih]
      by_cases hs : s = entry.1
      · subst hs
        simp
      · have hentry : ¬ entry.1 = s := fun h => hs h.symm
        simp [hs, hentry]

/-- Groups hold together what they were made of. -/
theorem perm_diagnostics_ofList (located : List (Text × Diagnostic)) :
    (ofList located).diagnostics.Perm (located.map Prod.snd) := by
  induction located using List.reverseRecOn with
  | nil => exact List.Perm.refl []
  | append_singleton located entry ih =>
      rw [ofList_concat, List.map_append]
      refine (perm_diagnostics_insert entry.1 entry.2 _).trans ?_
      exact (ih.cons entry.2).trans (List.perm_append_singleton entry.2 _).symm

theorem length_diagnostics_ofList (located : List (Text × Diagnostic)) :
    (ofList located).diagnostics.length = located.length := by
  rw [(perm_diagnostics_ofList located).length_eq, List.length_map]

theorem ne_nil_of_mem_ofList (located : List (Text × Diagnostic)) :
    ∀ group ∈ ofList located, group.2 ≠ [] := by
  induction located using List.reverseRecOn with
  | nil => simp [ofList]
  | append_singleton located entry ih =>
      rw [ofList_concat]
      exact ne_nil_of_mem_insert ih

end LintReport.Groups
