import LintReport.Text.Utf8

/-!
# Reading UTF-8 that was written

The bytes of a text read back as that text, by the strict reading and by the lenient one.
-/

namespace LintReport.Utf8

theorem toNat_ofNat {n : Nat} (h : n < 256) : (UInt8.ofNat n).toNat = n := by
  simpa using h

theorem tail?_ofNat {m : Nat} (h : m < 0x40) : tail? (UInt8.ofNat (0x80 + m)) = some m := by
  unfold tail?
  rw [toNat_ofNat (by omega), if_pos (by omega)]
  simp

/-- A number that some character has is no surrogate. -/
theorem toNat_valid (c : Char) : c.toNat < 0xD800 ∨ (0xDFFF < c.toNat ∧ c.toNat < 0x110000) :=
  c.valid

/-- The first byte of a character and what follows it lead to the number of the character. There is
one case for each number of bytes. -/
theorem front_encodeChar (c : Char) (rest : List UInt8) :
    ∃ first more, encodeChar c = first :: more ∧
      front first (more ++ rest) = (some c.toNat, rest) := by
  have hvalid := toNat_valid c
  unfold encodeChar
  generalize c.toNat = n at hvalid ⊢
  dsimp only
  split
  · next h1 =>
      refine ⟨_, _, rfl, ?_⟩
      simp only [front, toNat_ofNat (by omega : n < 256)]
      rw [if_pos h1]
      rfl
  · split
    · next h1 h2 =>
        refine ⟨_, _, rfl, ?_⟩
        have hfirst := toNat_ofNat (by omega : 0xC0 + n / 0x40 < 256)
        have hsecond : second? (UInt8.ofNat (0xC0 + n / 0x40))
            (UInt8.ofNat (0x80 + n % 0x40)) = some (n % 0x40) := by
          unfold second?
          rw [hfirst, tail?_ofNat (by omega)]
          repeat rw [if_neg (by omega)]
        simp only [front, hfirst]
        rw [if_neg (by omega), if_neg (by omega), if_pos (by omega)]
        simp only [List.cons_append, List.nil_append, tailsAfter, hsecond, tails]
        congr 2
        omega
    · split
      · next h1 h2 h3 =>
          refine ⟨_, _, rfl, ?_⟩
          have hfirst := toNat_ofNat (by omega : 0xE0 + n / 0x1000 < 256)
          have hbyte := toNat_ofNat (by omega : 0x80 + n / 0x40 % 0x40 < 256)
          have hsecond : second? (UInt8.ofNat (0xE0 + n / 0x1000))
              (UInt8.ofNat (0x80 + n / 0x40 % 0x40)) = some (n / 0x40 % 0x40) := by
            unfold second?
            rw [hfirst, hbyte, tail?_ofNat (by omega)]
            repeat rw [if_neg (by omega)]
          simp only [front, hfirst]
          rw [if_neg (by omega), if_neg (by omega), if_neg (by omega), if_pos (by omega)]
          simp only [List.cons_append, List.nil_append, tailsAfter, hsecond, tails,
            tail?_ofNat (by omega : n % 0x40 < 0x40)]
          congr 2
          omega
      · next h1 h2 h3 =>
          refine ⟨_, _, rfl, ?_⟩
          have hfirst := toNat_ofNat (by omega : 0xF0 + n / 0x40000 < 256)
          have hbyte := toNat_ofNat (by omega : 0x80 + n / 0x1000 % 0x40 < 256)
          have hsecond : second? (UInt8.ofNat (0xF0 + n / 0x40000))
              (UInt8.ofNat (0x80 + n / 0x1000 % 0x40)) = some (n / 0x1000 % 0x40) := by
            unfold second?
            rw [hfirst, hbyte, tail?_ofNat (by omega)]
            repeat rw [if_neg (by omega)]
          simp only [front, hfirst]
          rw [if_neg (by omega), if_neg (by omega), if_neg (by omega), if_neg (by omega),
            if_pos (by omega)]
          simp only [List.cons_append, List.nil_append, tailsAfter, hsecond, tails,
            tail?_ofNat (by omega : n / 0x40 % 0x40 < 0x40),
            tail?_ofNat (by omega : n % 0x40 < 0x40)]
          congr 2
          omega

theorem units_encodeChar_append (c : Char) (rest : List UInt8) :
    units (encodeChar c ++ rest) = some c :: units rest := by
  obtain ⟨first, more, hbytes, hfront⟩ := front_encodeChar c rest
  rw [hbytes, List.cons_append, units, hfront]
  simp [Char.ofNat_toNat]

theorem units_encode (t : Text) : units (encode t) = t.map some := by
  induction t with
  | nil => simp [encode, units]
  | cons c t ih =>
      have hcons : encode (c :: t) = encodeChar c ++ encode t := by simp [encode]
      rw [hcons, units_encodeChar_append, ih, List.map_cons]

theorem mapM_id_map_some {α : Type} (xs : List α) : (xs.map some).mapM id = some xs := by
  induction xs with
  | nil => rfl
  | cons x xs ih => simp [ih]

theorem decode?_encode (t : Text) : decode? (encode t) = some t := by
  rw [decode?, units_encode, mapM_id_map_some]

theorem decodeLossy_encode (t : Text) : decodeLossy (encode t) = t := by
  rw [decodeLossy, units_encode, List.map_map]
  exact List.map_id t

theorem encode_injective {s t : Text} (h : encode s = encode t) : s = t := by
  rw [← decodeLossy_encode s, h, decodeLossy_encode]

/-! ## Where characters begin -/

/-- The bytes after the first of a character are no characters of ASCII. -/
theorem toNat_of_mem_tail_encodeChar {c : Char} {b : UInt8} (h : b ∈ (encodeChar c).tail) :
    0x80 ≤ b.toNat := by
  have htail : ∀ m < 0x40, 0x80 ≤ (UInt8.ofNat (0x80 + m)).toNat := by
    intro m hm
    rw [toNat_ofNat (by omega)]
    omega
  have hmod : ∀ n, n % 0x40 < 0x40 := fun n => Nat.mod_lt n (by decide)
  unfold encodeChar at h
  dsimp only at h
  split at h
  · cases h
  · split at h
    · simp only [List.tail_cons, List.mem_singleton] at h
      exact h ▸ htail _ (hmod _)
    · split at h
      all_goals
        simp only [List.tail_cons, List.mem_cons, List.not_mem_nil, or_false] at h
        rcases h with rfl | rfl | rfl <;> exact htail _ (hmod _)

/-- If bytes of a text are cut before a character of ASCII or at the end, what follows are the bytes
of an end of the text. -/
theorem exists_suffix_of_encode {t : Text} {front back : List UInt8} (h : encode t = front ++ back)
    (hback : ∀ b, back.head? = some b → b.toNat < 0x80) :
    ∃ rest, rest <:+ t ∧ encode rest = back := by
  induction t generalizing front with
  | nil =>
      obtain ⟨-, rfl⟩ := List.append_eq_nil_iff.mp h.symm
      exact ⟨[], List.suffix_rfl, rfl⟩
  | cons c t ih =>
      cases front with
      | nil => exact ⟨c :: t, List.suffix_rfl, h⟩
      | cons first front =>
          obtain ⟨first', more, hbytes, -⟩ := front_encodeChar c []
          rw [encode, List.flatMap_cons, hbytes] at h
          obtain ⟨-, h⟩ := List.cons.inj h
          rcases List.append_eq_append_iff.mp h with ⟨front', -, ht⟩ | ⟨inside, hmore, hinside⟩
          · obtain ⟨rest, hrest, hencode⟩ := ih ht
            exact ⟨rest, hrest.trans (List.suffix_cons c t), hencode⟩
          · cases inside with
            | nil => exact ⟨t, List.suffix_cons c t, hinside.symm⟩
            | cons b inside =>
                -- the cut would lie within the bytes of `c`
                have hb : b ∈ (encodeChar c).tail := by
                  rw [hbytes, List.tail_cons, hmore]
                  simp
                have hlt := hback b (by rw [hinside]; rfl)
                have hle := toNat_of_mem_tail_encodeChar hb
                omega

end LintReport.Utf8
