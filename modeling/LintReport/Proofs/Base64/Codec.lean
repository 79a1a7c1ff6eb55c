import LintReport.Base64.Codec

/-!
# Reading base64 that was written

Bytes written in base64 are read back, group by group. What is written consists of letters of the
alphabet and padding, in whole groups of four.
-/

namespace LintReport.Base64

/-! ## Letters -/

theorem letter_ne_pad {n : Nat} (h : n < 64) : letter n ≠ pad := by
  intro heq
  have hpad : digit? pad = none := by decide
  rw [← heq, digit?_letter h] at hpad
  cases hpad

theorem decodeFrom_letter {n : Nat} (h : n < 64) (group : Group) (pads : Nat) (rest : Text) :
    decodeFrom group pads (letter n :: rest) =
      (decodeFrom (group.push n).2 0 rest).map ((group.push n).1 ++ ·) := by
  rw [decodeFrom, if_neg (letter_ne_pad h), digit?_letter h]

/-- A letter is a visible character of ASCII. -/
theorem toNat_letter {n : Nat} (h : n < 64) :
    0x21 ≤ (letter n).toNat ∧ (letter n).toNat < 0x7F := by
  have all : ∀ m : Fin 64, 0x21 ≤ (letter m).toNat ∧ (letter m).toNat < 0x7F := by decide
  exact all ⟨n, h⟩

/-! ## Groups -/

/-- What is written is read back. Four letters give the three bytes of a whole group, and two or
three letters with padding give the one or two bytes of the last. -/
theorem decode?_encode (bytes : List UInt8) : decode? (encode bytes) = some bytes := by
  unfold decode?
  induction bytes using encode.induct with
  | case1 a b c rest ih =>
      have ha := a.toNat_lt
      have hb := b.toNat_lt
      have hc := c.toNat_lt
      rw [encode, decodeFrom_letter (by omega), decodeFrom_letter (by omega),
        decodeFrom_letter (by omega), decodeFrom_letter (by omega)]
      have hfirst : a.toNat / 4 * 4 + (a.toNat % 4 * 16 + b.toNat / 16) / 16 = a.toNat := by omega
      have hsecond : (a.toNat % 4 * 16 + b.toNat / 16) % 16 * 16 +
          (b.toNat % 16 * 4 + c.toNat / 64) / 4 = b.toNat := by omega
      have hthird : (b.toNat % 16 * 4 + c.toNat / 64) % 4 * 64 + c.toNat % 64 = c.toNat := by omega
      simp only [Group.push, hfirst, hsecond, hthird, ih, UInt8.ofNat_toNat]
      rfl
  | case2 a b =>
      have ha := a.toNat_lt
      have hb := b.toNat_lt
      rw [encode, decodeFrom_letter (by omega), decodeFrom_letter (by omega),
        decodeFrom_letter (by omega)]
      have hfirst : a.toNat / 4 * 4 + (a.toNat % 4 * 16 + b.toNat / 16) / 16 = a.toNat := by omega
      have hsecond : (a.toNat % 4 * 16 + b.toNat / 16) % 16 * 16 + b.toNat % 16 * 4 / 4 =
        b.toNat := by omega
      simp only [Group.push, hfirst, hsecond, UInt8.ofNat_toNat]
      rfl
  | case3 a =>
      have ha := a.toNat_lt
      rw [encode, decodeFrom_letter (by omega), decodeFrom_letter (by omega)]
      have hfirst : a.toNat / 4 * 4 + a.toNat % 4 * 16 / 16 = a.toNat := by omega
      simp only [Group.push, hfirst, UInt8.ofNat_toNat]
      rfl
  | case4 => rfl

theorem length_encode_mod (bytes : List UInt8) : (encode bytes).length % 4 = 0 := by
  induction bytes using encode.induct with
  | case1 a b c rest ih =>
      simp only [encode, List.length_cons]
      omega
  | case2 a b => simp [encode]
  | case3 a => simp [encode]
  | case4 => simp [encode]

/-- What is written has the padding of one group. -/
theorem count_pad_encode_le (bytes : List UInt8) : (encode bytes).count pad ≤ 2 := by
  have hletter : ∀ n < 64, ∀ t : Text, (letter n :: t).count pad = t.count pad := fun n hn t =>
    List.count_cons_of_ne (letter_ne_pad hn)
  induction bytes using encode.induct with
  | case1 a b c rest ih =>
      have ha := a.toNat_lt
      have hb := b.toNat_lt
      have hc := c.toNat_lt
      rw [encode, hletter _ (by omega), hletter _ (by omega), hletter _ (by omega),
        hletter _ (by omega)]
      exact ih
  | case2 a b =>
      have ha := a.toNat_lt
      have hb := b.toNat_lt
      rw [encode, hletter _ (by omega), hletter _ (by omega), hletter _ (by omega)]
      decide
  | case3 a =>
      have ha := a.toNat_lt
      rw [encode, hletter _ (by omega), hletter _ (by omega)]
      decide
  | case4 => decide

theorem toNat_of_mem_encode (bytes : List UInt8) :
    ∀ c ∈ encode bytes, 0x21 ≤ c.toNat ∧ c.toNat < 0x7F := by
  have hpad : 0x21 ≤ pad.toNat ∧ pad.toNat < 0x7F := by decide
  induction bytes using encode.induct with
  | case1 a b c rest ih =>
      have ha := a.toNat_lt
      have hb := b.toNat_lt
      have hc := c.toNat_lt
      rw [encode]
      simp only [List.forall_mem_cons]
      exact ⟨toNat_letter (by omega), toNat_letter (by omega), toNat_letter (by omega),
        toNat_letter (by omega), ih⟩
  | case2 a b =>
      have ha := a.toNat_lt
      have hb := b.toNat_lt
      rw [encode]
      simp only [List.forall_mem_cons]
      exact ⟨toNat_letter (by omega), toNat_letter (by omega), toNat_letter (by omega), hpad,
        by simp⟩
  | case3 a =>
      have ha := a.toNat_lt
      rw [encode]
      simp only [List.forall_mem_cons]
      exact ⟨toNat_letter (by omega), toNat_letter (by omega), hpad, hpad, by simp⟩
  | case4 => simp [encode]

end LintReport.Base64
