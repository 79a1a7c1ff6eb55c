import LintReport.Proofs.Json.Reader
import LintReport.Value.Shown
import Mathlib.Data.List.Induction
import Mathlib.Data.Nat.Digits.Defs

/-!
# What is read from JSON can be shown

The reader takes no integer that has more digits than are written. So every value that comes from a
JSON text has a text, and a message that shows it can be made.
-/

namespace LintReport

theorem Text.ofDigits_lt (ds : List Nat) (hds : ∀ d ∈ ds, d < 10) :
    Text.ofDigits ds < 10 ^ ds.length := by
  -- the induction is on the front of the list, since a further digit is added at its end
  induction ds using List.reverseRecOn with
  | nil => decide
  | append_singleton ds d ih =>
      have hd : d < 10 := hds d (by simp)
      have hrest := ih fun e he => hds e (by simp [he])
      have hsum : Text.ofDigits (ds ++ [d]) = 10 * Text.ofDigits ds + d := by
        simp [Text.ofDigits]
      rw [hsum, List.length_append, List.length_singleton, Nat.pow_succ]
      omega

theorem Decimal.digitIn?_lt {base d : Nat} {c : Char} (h : Decimal.digitIn? base c = some d) :
    d < base := by
  unfold Decimal.digitIn? at h
  simp only [Option.ite_none_right_eq_some, Option.some.injEq] at h
  obtain ⟨hlt, rfl⟩ := h
  exact hlt

/-- A number that has been read digit by digit is written with no more digits. -/
theorem Decimal.natText_ofDigits_length_le {ds : List Nat} (hne : ds ≠ [])
    (hds : ∀ d ∈ ds, d < 10) : (natText (Text.ofDigits ds)).length ≤ ds.length :=
  Nat.toDigits_length 10 _ _ (List.length_pos_iff.mpr hne) (Text.ofDigits_lt ds hds)

/-! ## Values with a text -/

namespace Value

def HasText (v : Value) : Prop :=
  v.shown?.isSome

theorem hasText_float (x : Float) : (float x).HasText := by
  simp [HasText, shown?]

theorem hasText_str (s : Text) : (str s).HasText := by
  simp [HasText, shown?]

theorem hasText_list {xs : List Value} (h : ∀ x ∈ xs, x.HasText) : (list xs).HasText := by
  have hall : (shownAll? xs).isSome := by
    induction xs with
    | nil => simp [shownAll?]
    | cons x rest ih =>
        obtain ⟨text, htext⟩ := Option.isSome_iff_exists.mp (h x (by simp))
        obtain ⟨texts, htexts⟩ := Option.isSome_iff_exists.mp
          (ih fun y hy => h y (List.mem_cons_of_mem x hy))
        simp [shownAll?, htext, htexts]
  simpa [HasText, shown?] using hall

theorem hasText_map {entries : List (Value × Value)}
    (h : ∀ entry ∈ entries, entry.1.HasText ∧ entry.2.HasText) : (map entries).HasText := by
  have hall : (shownEntries? entries).isSome := by
    induction entries with
    | nil => simp [shownEntries?]
    | cons entry rest ih =>
        obtain ⟨hkey, hvalue⟩ := h entry (by simp)
        obtain ⟨key, hkey⟩ := Option.isSome_iff_exists.mp hkey
        obtain ⟨value, hvalue⟩ := Option.isSome_iff_exists.mp hvalue
        obtain ⟨texts, htexts⟩ := Option.isSome_iff_exists.mp
          (ih fun e he => h e (List.mem_cons_of_mem entry he))
        simp [shownEntries?, hkey, hvalue, htexts]
  simpa [HasText, shown?] using hall

theorem hasText_of_hasText_map {entries : List (Value × Value)} (h : (map entries).HasText) :
    ∀ entry ∈ entries, entry.2.HasText := by
  have hall : (shownEntries? entries).isSome := by simpa [HasText, shown?] using h
  clear h
  induction entries with
  | nil => simp
  | cons entry rest ih =>
      obtain ⟨texts, htexts⟩ := Option.isSome_iff_exists.mp hall
      obtain ⟨k, v⟩ := entry
      simp only [shownEntries?, Option.bind_eq_bind, Option.bind_eq_some_iff] at htexts
      obtain ⟨key, -, value, hvalue, rest', hrest, -⟩ := htexts
      rw [List.forall_mem_cons]
      exact ⟨Option.isSome_of_eq_some hvalue, ih (Option.isSome_of_eq_some hrest)⟩

theorem hasText_namedD {entries : List (Value × Value)} (h : (map entries).HasText)
    (name : Text) : (namedD entries name).HasText := by
  have hentries := hasText_of_hasText_map h
  clear h
  unfold namedD
  induction entries with
  | nil => simp [named?, HasText, shown?]
  | cons entry rest ih =>
      obtain ⟨k, v⟩ := entry
      rw [List.forall_mem_cons] at hentries
      rw [named?]
      split
      · exact hentries.1
      · exact ih hentries.2

theorem hasText_putEntry {key v : Value} (hkey : key.HasText) (hv : v.HasText)
    {entries : List (Value × Value)}
    (h : ∀ entry ∈ entries, entry.1.HasText ∧ entry.2.HasText) :
    ∀ entry ∈ putEntry key v entries, entry.1.HasText ∧ entry.2.HasText := by
  induction entries with
  | nil =>
      rw [putEntry, List.forall_mem_singleton]
      exact ⟨hkey, hv⟩
  | cons first rest ih =>
      obtain ⟨k, w⟩ := first
      rw [List.forall_mem_cons] at h
      obtain ⟨⟨hk, hw⟩, hrest⟩ := h
      rw [putEntry]
      split
      · rw [List.forall_mem_cons]
        exact ⟨⟨hk, hv⟩, hrest⟩
      · rw [List.forall_mem_cons]
        exact ⟨⟨hk, hw⟩, ih hrest⟩

theorem hasText_ofEntries {entries : List (Value × Value)}
    (h : ∀ entry ∈ entries, entry.1.HasText ∧ entry.2.HasText) : (ofEntries entries).HasText := by
  suffices hfold : ∀ kept : List (Value × Value),
      (∀ entry ∈ kept, entry.1.HasText ∧ entry.2.HasText) →
      ∀ entry ∈ entries.foldl (fun kept entry => putEntry entry.1 entry.2 kept) kept,
        entry.1.HasText ∧ entry.2.HasText from hasText_map (hfold [] (by simp))
  induction entries with
  | nil => exact fun kept hkept => hkept
  | cons first rest ih =>
      intro kept hkept
      obtain ⟨hfirst, hrest⟩ := List.forall_mem_cons.mp h
      exact ih hrest _ (hasText_putEntry hfirst.1 hfirst.2 hkept)

end Value

/-! ## What the reader gives -/

namespace Json

theorem digits_lt (t : Text) : ∀ d ∈ (digits t).1, d < 10 := by
  induction t with
  | nil => simp [digits]
  | cons c t ih =>
      rw [digits]
      split
      · next d hd =>
          rw [List.forall_mem_cons]
          exact ⟨Decimal.digitIn?_lt hd, ih⟩
      · simp

theorem hasText_int_of_digits {ds : List Nat} (hne : ds ≠ []) (hds : ∀ d ∈ ds, d < 10)
    (hlength : ds.length ≤ Decimal.maxDigits) (negative : Bool) :
    (Value.int (if negative then -(Text.ofDigits ds : Int) else Text.ofDigits ds)).HasText := by
  have habs : (if negative then -(Text.ofDigits ds : Int) else Text.ofDigits ds).natAbs =
      Text.ofDigits ds := by
    cases negative <;> simp
  have hle := (Decimal.natText_ofDigits_length_le hne hds).trans hlength
  simp [Value.HasText, Value.shown?, Decimal.intText?, habs, hle]

theorem hasText_of_number {negative : Bool} {t rest : Text} {v : Value}
    (h : number negative t = .ok (v, rest)) : v.HasText := by
  unfold number at h
  have hlt := digits_lt t
  cases hdigits : digits t with
  | mk ds after =>
      cases ds with
      | nil => simp [hdigits] at h
      | cons first more =>
          rw [hdigits] at h hlt
          dsimp only at h hlt
          -- the whole part is the single digit zero or all of the digits
          have hwhole : (if first = 0 then (([0] : List Nat), t.drop 1)
                else (first :: more, after)).1 ≠ [] ∧
              ∀ d ∈ (if first = 0 then (([0] : List Nat), t.drop 1)
                else (first :: more, after)).1, d < 10 := by
            split
            · simp
            · exact ⟨by simp, hlt⟩
          generalize (if first = 0 then (([0] : List Nat), t.drop 1)
            else (first :: more, after)) = whole at h hwhole
          split at h
          · split at h
            · simp at h
            · next hlength =>
                simp only [Except.ok.injEq, Prod.mk.injEq] at h
                rw [← h.1]
                exact hasText_int_of_digits hwhole.1 hwhole.2 (by omega) negative
          · simp only [Except.ok.injEq, Prod.mk.injEq] at h
            rw [← h.1]
            exact Value.hasText_float _

theorem hasText_of_word? {t rest : Text} {v : Value} (h : word? t = some (v, rest)) :
    v.HasText := by
  unfold word? at h
  obtain ⟨⟨name, v'⟩, hentry, hdrop⟩ := List.exists_of_findSome?_eq_some h
  obtain ⟨rest', -, heq⟩ := Option.map_eq_some_iff.mp hdrop
  have hwords : ∀ entry ∈ words, entry.2.HasText := by
    simp [words, Value.HasText, Value.shown?]
  obtain ⟨rfl, -⟩ := Prod.mk.inj heq
  exact hwords _ hentry

section Collections

variable {read : Text → Except Fault (Value × Text)} {bound : Nat} {t rest : Text}

theorem hasText_of_elements (hread : ∀ {t v rest}, read t = .ok (v, rest) → v.HasText)
    {vs : List Value} (h : elements read bound t = .ok (vs, rest)) : ∀ v ∈ vs, v.HasText := by
  induction bound generalizing t vs with
  | zero => simp [elements] at h
  | succ bound ih =>
      obtain ⟨v, after, hv, hend⟩ := elements_succ_eq_ok_iff.mp h
      rcases hend with ⟨-, rfl⟩ | ⟨tail, more, -, hmore, rfl⟩
      · rw [List.forall_mem_singleton]
        exact hread hv
      · rw [List.forall_mem_cons]
        exact ⟨hread hv, ih hmore⟩

theorem hasText_of_members (hread : ∀ {t v rest}, read t = .ok (v, rest) → v.HasText)
    {entries : List (Value × Value)} (h : members read bound t = .ok (entries, rest)) :
    ∀ entry ∈ entries, entry.1.HasText ∧ entry.2.HasText := by
  induction bound generalizing t entries with
  | zero => simp [members] at h
  | succ bound ih =>
      obtain ⟨body, key, after, colon, v, behind, rfl, -, -, hv, hend⟩ :=
        members_succ_eq_ok_iff.mp h
      have hentry : (Value.str key).HasText ∧ v.HasText := ⟨Value.hasText_str key, hread hv⟩
      rcases hend with ⟨-, rfl⟩ | ⟨tail, more, -, hmore, rfl⟩
      · rw [List.forall_mem_singleton]
        exact hentry
      · rw [List.forall_mem_cons]
        exact ⟨hentry, ih hmore⟩

end Collections

theorem hasText_of_value {bound depth : Nat} {t rest : Text} {v : Value}
    (h : value bound depth t = .ok (v, rest)) : v.HasText := by
  induction depth generalizing t rest v with
  | zero =>
      rcases value_eq_ok_iff.mp h with hword | ⟨_, s, -, -, rfl⟩ | ⟨_, _, _, hdepth, -⟩ |
        ⟨_, _, _, hdepth, -⟩ | ⟨_, -, hnumber⟩ | hnumber
      · exact hasText_of_word? hword
      · exact Value.hasText_str s
      · simp at hdepth
      · simp at hdepth
      · exact hasText_of_number hnumber
      · exact hasText_of_number hnumber
  | succ depth ih =>
      rcases value_eq_ok_iff.mp h with hword | ⟨_, s, -, -, rfl⟩ | ⟨_, inner, -, hdepth, h⟩ |
        ⟨_, inner, -, hdepth, h⟩ | ⟨_, -, hnumber⟩ | hnumber
      · exact hasText_of_word? hword
      · exact Value.hasText_str s
      · obtain rfl := Nat.succ.inj hdepth
        rcases list_eq_ok_iff.mp h with ⟨-, rfl⟩ | ⟨-, vs, hvs, rfl⟩
        · exact Value.hasText_list (by simp)
        · exact Value.hasText_list (hasText_of_elements ih hvs)
      · obtain rfl := Nat.succ.inj hdepth
        rcases object_eq_ok_iff.mp h with ⟨-, rfl⟩ | ⟨-, entries, hentries, rfl⟩
        · exact Value.hasText_map (by simp)
        · exact Value.hasText_ofEntries (hasText_of_members ih hentries)
      · exact hasText_of_number hnumber
      · exact hasText_of_number hnumber

/-- A value that a JSON text writes has a text itself, which need not be the same. -/
theorem hasText_of_read {t : Text} {depth : Nat} {v : Value} (h : read t depth = .ok v) :
    v.HasText := by
  obtain ⟨rest, hv, -⟩ := read_eq_ok_iff.mp h
  exact hasText_of_value hv

end Json

end LintReport
