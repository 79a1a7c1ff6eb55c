import LintReport.Lint.Tally
import Mathlib.Data.List.Induction

/-!
# What a tally counts

A tally is kept while diagnostics are gone through one after the other. Its numbers are those of the
whole list, so they do not depend on the order, and they add up where lists are joined.
-/

namespace LintReport.Tally

theorem ofList_concat (ds : List Diagnostic) (d : Diagnostic) :
    ofList (ds ++ [d]) = (ofList ds).add d := by
  rw [ofList, List.foldl_append]
  rfl

/-- All diagnostics, the errors and the others are counted, and the emphasis says whether there are
errors. -/
theorem ofList_eq (ds : List Diagnostic) :
    ofList ds = {
      total := ds.length
      errors := ds.countP Diagnostic.isError
      warnings := ds.countP fun d => !d.isError
      emphasis := if ds.any Diagnostic.isError then "error" else "warning" } := by
  induction ds using List.reverseRecOn with
  | nil => rfl
  | append_singleton ds d ih =>
      rw [ofList_concat, ih]
      simp only [add, List.length_append, List.length_singleton, List.countP_append,
        List.countP_singleton, List.any_append, List.any_cons, List.any_nil, Bool.or_false]
      cases hd : d.isError with
      | true => simp only [if_true, Bool.not_true, Bool.false_eq_true, if_false, Nat.add_zero,
          Bool.or_true]
      | false => simp only [Bool.false_eq_true, if_false, Bool.not_false, if_true, Nat.add_zero,
          Bool.or_false]

theorem errors_add_warnings (ds : List Diagnostic) :
    (ofList ds).errors + (ofList ds).warnings = (ofList ds).total := by
  rw [ofList_eq]
  have hsplit := List.length_eq_countP_add_countP Diagnostic.isError (l := ds)
  simp only [Bool.not_eq_true, Bool.decide_eq_false] at hsplit
  exact hsplit.symm

theorem emphasis_ofList (ds : List Diagnostic) :
    (ofList ds).emphasis = (if 0 < (ofList ds).errors then "error" else "warning" : Text) := by
  rw [ofList_eq]
  simp only [List.countP_pos_iff, List.any_eq_true]

theorem total_append (ds es : List Diagnostic) :
    (ofList (ds ++ es)).total = (ofList ds).total + (ofList es).total := by
  simp only [ofList_eq, List.length_append]

theorem errors_append (ds es : List Diagnostic) :
    (ofList (ds ++ es)).errors = (ofList ds).errors + (ofList es).errors := by
  simp only [ofList_eq, List.countP_append]

theorem warnings_append (ds es : List Diagnostic) :
    (ofList (ds ++ es)).warnings = (ofList ds).warnings + (ofList es).warnings := by
  simp only [ofList_eq, List.countP_append]

theorem emphasis_eq_error_iff (ds : List Diagnostic) :
    (ofList ds).emphasis = "error" ↔ ds.any Diagnostic.isError = true := by
  rw [ofList_eq]
  cases ds.any Diagnostic.isError with
  | true => exact iff_of_true rfl rfl
  | false => exact iff_of_false (show ¬ ("warning".toList = "error".toList) by decide) (by decide)

theorem emphasis_append (ds es : List Diagnostic) :
    (ofList (ds ++ es)).emphasis = "error" ↔
      (ofList ds).emphasis = "error" ∨ (ofList es).emphasis = "error" := by
  rw [emphasis_eq_error_iff, emphasis_eq_error_iff, emphasis_eq_error_iff, List.any_append,
    Bool.or_eq_true]

/-- A tally depends on nothing but how many diagnostics are errors and how many are not. -/
theorem ofList_eq_of_perm_map {ds es : List Diagnostic}
    (h : (ds.map Diagnostic.isError).Perm (es.map Diagnostic.isError)) : ofList ds = ofList es := by
  have hlength := h.length_eq
  have herrors := h.countP_eq id
  have hwarnings := h.countP_eq (!·)
  have hany := h.any_eq (f := id)
  rw [List.length_map, List.length_map] at hlength
  rw [List.countP_map, List.countP_map] at herrors hwarnings
  rw [List.any_map, List.any_map] at hany
  simp only [Function.comp_def, id_eq] at herrors hwarnings hany
  rw [ofList_eq, ofList_eq, hlength, herrors, hwarnings, hany]

theorem ofList_perm {ds es : List Diagnostic} (h : ds.Perm es) : ofList ds = ofList es :=
  ofList_eq_of_perm_map (h.map Diagnostic.isError)

end LintReport.Tally
