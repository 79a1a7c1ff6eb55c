import LintReport.Proofs.Json.Reader

/-!
# Nesting

How deep a JSON text may be nested decides only whether it is too deep. With more room than that is
needed for it, whatever else comes of reading the text comes of it just the same.
-/

namespace LintReport.Json

/-! ## Too little room -/

theorem word?_opening {c : Char} (hc : c = '[' ∨ c = '\x7b') (t : Text) :
    word? (c :: t) = none := by
  apply word?_eq_none _ t words_ne_nil
  rcases hc with rfl | rfl <;> simp [words]

theorem value_bracket (bound depth : Nat) (t : Text) :
    value bound depth ('[' :: t) =
      match depth with
      | 0 => .error .tooDeep
      | depth + 1 => list (value bound depth) bound t := by
  rw [value.eq_def, word?_opening (Or.inl rfl)]
  cases depth <;> rfl

theorem value_brace (bound depth : Nat) (t : Text) :
    value bound depth ('\x7b' :: t) =
      match depth with
      | 0 => .error .tooDeep
      | depth + 1 => object (value bound depth) bound t := by
  rw [value.eq_def, word?_opening (Or.inr rfl)]
  cases depth <;> rfl

/-- Only brackets and braces take room. -/
theorem value_eq_of_flat {t : Text} (hbracket : t.head? ≠ some '[') (hbrace : t.head? ≠ some '\x7b')
    (bound depth depth' : Nat) : value bound depth t = value bound depth' t := by
  rw [value.eq_def, value.eq_def bound depth' t]
  cases word? t with
  | some found => rfl
  | none =>
      cases t with
      | nil => rfl
      | cons c rest =>
          split <;> simp_all

/-- As many brackets as are allowed, and one more. -/
theorem value_of_brackets (bound depth : Nat) (t : Text) :
    value (bound + 1) depth (List.replicate (depth + 1) '[' ++ t) = .error .tooDeep := by
  induction depth with
  | zero => exact value_bracket (bound + 1) 0 t
  | succ depth ih =>
      have hskip : skip (List.replicate (depth + 1) '[' ++ t) =
          '[' :: (List.replicate depth '[' ++ t) := skip_of_not_blank (by decide) _
      rw [List.replicate_succ, List.cons_append, value_bracket]
      dsimp only
      rw [list, hskip]
      -- the first element of the list is read before anything behind it
      have helements : elements (value (bound + 1) depth) (bound + 1)
          ('[' :: (List.replicate depth '[' ++ t)) = .error .tooDeep := by
        rw [← List.cons_append, ← List.replicate_succ, elements, ih]
        rfl
      show (elements _ _ _ >>= _) = _
      rw [helements]
      rfl

/-- What begins with more brackets than may be nested is too deep, whatever follows. -/
theorem read_of_brackets (depth : Nat) (t : Text) :
    read (List.replicate (depth + 1) '[' ++ t) depth = .error .tooDeep := by
  have hskip : skip (List.replicate (depth + 1) '[' ++ t) =
      List.replicate (depth + 1) '[' ++ t := skip_of_not_blank (by decide) _
  rw [read, hskip, value_of_brackets]
  rfl

/-! ## More room -/

section MoreRoom

variable {α β : Type}

/-- With more room the outcome is the same, unless what there was of room was too little. -/
def Settles (x x' : Except Fault α) : Prop :=
  x ≠ .error .tooDeep → x' = x

theorem Settles.refl (x : Except Fault α) : Settles x x := fun _ => rfl

theorem Settles.bind {x x' : Except Fault α} {f f' : α → Except Fault β} (hx : Settles x x')
    (hf : ∀ a, Settles (f a) (f' a)) : Settles (x >>= f) (x' >>= f') := by
  intro h
  cases x with
  | error fault =>
      have hne : (.error fault : Except Fault α) ≠ .error .tooDeep := by
        rintro heq
        obtain rfl := Except.error.inj heq
        exact h rfl
      rw [hx hne]
      rfl
  | ok a =>
      rw [hx nofun]
      exact hf a h

variable {next next' : Text → Except Fault (Value × Text)}

theorem elements_settles (hnext : ∀ t, Settles (next t) (next' t)) (bound : Nat) (t : Text) :
    Settles (elements next bound t) (elements next' bound t) := by
  induction bound generalizing t with
  | zero => exact .refl _
  | succ bound ih =>
      refine (hnext t).bind ?_
      rintro ⟨v, rest⟩
      dsimp only
      split
      · exact .refl _
      · exact (ih _).bind fun _ => .refl _
      · exact .refl _

theorem members_settles (hnext : ∀ t, Settles (next t) (next' t)) (bound : Nat) (t : Text) :
    Settles (members next bound t) (members next' bound t) := by
  induction bound generalizing t with
  | zero => exact .refl _
  | succ bound ih =>
      rw [members.eq_def, members.eq_def]
      dsimp only
      split
      · refine Settles.bind (.refl _) ?_
        rintro ⟨key, rest⟩
        dsimp only
        split
        · refine (hnext _).bind ?_
          rintro ⟨v, rest⟩
          dsimp only
          split
          · exact .refl _
          · exact (ih _).bind fun _ => .refl _
          · exact .refl _
        · exact .refl _
      · exact .refl _

theorem list_settles (hnext : ∀ t, Settles (next t) (next' t)) (bound : Nat) (t : Text) :
    Settles (list next bound t) (list next' bound t) := by
  unfold list
  split
  · exact .refl _
  · exact (elements_settles hnext bound _).bind fun _ => .refl _

theorem object_settles (hnext : ∀ t, Settles (next t) (next' t)) (bound : Nat) (t : Text) :
    Settles (object next bound t) (object next' bound t) := by
  unfold object
  split
  · exact .refl _
  · exact (members_settles hnext bound _).bind fun _ => .refl _

theorem value_settles (bound : Nat) {depth depth' : Nat} (hdepth : depth ≤ depth') (t : Text) :
    Settles (value bound depth t) (value bound depth' t) := by
  induction depth generalizing depth' t with
  | zero =>
      by_cases hbracket : t.head? = some '['
      · obtain ⟨rest, rfl⟩ := List.head?_eq_some_iff.mp hbracket
        exact fun h => (h (value_bracket _ 0 rest)).elim
      by_cases hbrace : t.head? = some '\x7b'
      · obtain ⟨rest, rfl⟩ := List.head?_eq_some_iff.mp hbrace
        exact fun h => (h (value_brace _ 0 rest)).elim
      rw [value_eq_of_flat hbracket hbrace bound 0 depth']
      exact .refl _
  | succ depth ih =>
      obtain ⟨depth', rfl⟩ : ∃ d, depth' = d + 1 := ⟨depth' - 1, by omega⟩
      have hnext := ih (Nat.le_of_succ_le_succ hdepth)
      by_cases hbracket : t.head? = some '['
      · obtain ⟨rest, rfl⟩ := List.head?_eq_some_iff.mp hbracket
        rw [value_bracket, value_bracket]
        exact list_settles hnext bound rest
      by_cases hbrace : t.head? = some '\x7b'
      · obtain ⟨rest, rfl⟩ := List.head?_eq_some_iff.mp hbrace
        rw [value_brace, value_brace]
        exact object_settles hnext bound rest
      rw [value_eq_of_flat hbracket hbrace bound (depth + 1) (depth' + 1)]
      exact .refl _

theorem read_settles (t : Text) {depth depth' : Nat} (hdepth : depth ≤ depth') :
    Settles (read t depth) (read t depth') :=
  (value_settles _ hdepth _).bind fun _ => .refl _

end MoreRoom

/-- Two readers of a text that both have room enough read the same. -/
theorem read_eq_of_ne_tooDeep {t : Text} {depth depth' : Nat}
    (h : read t depth ≠ .error .tooDeep) (h' : read t depth' ≠ .error .tooDeep) :
    read t depth' = read t depth := by
  rcases Nat.le_total depth depth' with hdepth | hdepth
  · exact read_settles t hdepth h
  · exact (read_settles t hdepth h').symm

end LintReport.Json
