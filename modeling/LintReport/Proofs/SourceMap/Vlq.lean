import LintReport.SourceMap.Vlq

/-!
# Quantities that were written

The letters of a sequence of integers read back as that sequence, however large the integers are.
-/

namespace LintReport.Vlq

/-! ## Numbers and their digits -/

theorem signed_unsigned (v : Int) : signed (unsigned v) = v := by
  unfold unsigned signed
  split <;> split <;> omega

theorem numberDigits_ne_nil (n : Nat) : numberDigits n ≠ [] := by
  rw [numberDigits]
  split <;> simp

theorem lt_of_mem_numberDigits {n d : Nat} (h : d ∈ numberDigits n) : d < 64 := by
  induction n using Nat.strongRecOn with
  | ind n ih =>
      rw [numberDigits] at h
      split at h
      · next hsmall =>
          rw [List.mem_singleton] at h
          omega
      · rw [List.mem_cons] at h
        rcases h with h | h
        · omega
        · exact ih (n / 32) (by omega) h

theorem numbers?_numberDigits_append (n : Nat) (ds : List Nat) :
    numbers? (numberDigits n ++ ds) = (numbers? ds).map (n :: ·) := by
  induction n using Nat.strongRecOn with
  | ind n ih =>
      rw [numberDigits]
      split
      · next hsmall => rw [List.singleton_append, numbers?, if_pos hsmall]
      · next hlarge =>
          rw [List.cons_append, numbers?, if_neg (by omega), ih (n / 32) (by omega)]
          cases numbers? ds with
          | none => rfl
          | some ns =>
              have hsum : n % 32 + 32 * (n / 32) = n := by omega
              simp [hsum]

theorem numbers?_flatMap_numberDigits (ns : List Nat) :
    numbers? (ns.flatMap numberDigits) = some ns := by
  induction ns with
  | nil => rfl
  | cons n ns ih => rw [List.flatMap_cons, numbers?_numberDigits_append, ih, Option.map_some]

/-! ## Digits and their letters -/

theorem digits_map_letter {ds : List Nat} (h : ∀ d ∈ ds, d < 64) :
    digits (ds.map Base64.letter) = .ok ds := by
  induction ds with
  | nil => rfl
  | cons d ds ih =>
      have hd : d < 64 := h d (by simp)
      have hds : ∀ e ∈ ds, e < 64 := fun e he => h e (List.mem_cons_of_mem _ he)
      rw [List.map_cons, digits, Base64.digit?_letter hd, ih hds]
      rfl

theorem isSome_digit?_of_mem_encode {vs : List Int} {c : Char} (h : c ∈ encode vs) :
    (Base64.digit? c).isSome := by
  unfold encode at h
  obtain ⟨d, hd, rfl⟩ := List.mem_map.mp h
  obtain ⟨v, -, hdv⟩ := List.mem_flatMap.mp hd
  rw [Base64.digit?_letter (lt_of_mem_numberDigits hdv)]
  rfl

theorem encode_ne_nil {vs : List Int} (h : vs ≠ []) : encode vs ≠ [] := by
  obtain ⟨v, rest, rfl⟩ := List.exists_cons_of_ne_nil h
  obtain ⟨d, ds, hds⟩ := List.exists_cons_of_ne_nil (numberDigits_ne_nil (unsigned v))
  simp [encode, hds]

theorem decode_encode (vs : List Int) : decode (encode vs) = .ok vs := by
  have hnumbers : (vs.flatMap fun v => numberDigits (unsigned v)) =
      (vs.map unsigned).flatMap numberDigits := by
    rw [List.flatMap_map]
  have hdigits : ∀ d ∈ (vs.map unsigned).flatMap numberDigits, d < 64 := by
    intro d hd
    obtain ⟨n, -, hn⟩ := List.mem_flatMap.mp hd
    exact lt_of_mem_numberDigits hn
  have hsigned : (vs.map unsigned).map signed = vs := by
    simp [List.map_map, Function.comp_def, signed_unsigned]
  unfold decode encode
  rw [hnumbers, digits_map_letter hdigits]
  dsimp only
  rw [numbers?_flatMap_numberDigits]
  dsimp only
  rw [hsigned]

end LintReport.Vlq
