import LintReport.Proofs.Json.Reader
import LintReport.Proofs.Text.LineBreaks

/-!
# JSON and line breaks

A JSON text that is read is read as the same value after all its line breaks have been written as
line feeds: outside of strings line breaks are blanks, and inside of them there are none. The text
gets shorter that way, and with it the bound on the number of elements, so it has to be shown that
the bound still suffices: reading a value uses up at least one character.
-/

namespace LintReport.Json

open Disk (unixLineBreaks unixLineBreaks_nil unixLineBreaks_cons unixLineBreaks_return
  unixLineBreaks_append)

/-! ## Blanks, words and numbers -/

theorem skip_unixLineBreaks (t : Text) : skip (unixLineBreaks t) = unixLineBreaks (skip t) := by
  fun_induction unixLineBreaks t with
  | case1 rest ih =>
      rw [skip_cons (by decide), ih, skip_cons (by decide), skip_cons (by decide)]
  | case2 rest hrest ih =>
      rw [skip_cons (by decide), ih, skip_cons (c := '\r') (by decide)]
  | case3 c rest hreturn hc ih =>
      cases hblank : isBlank c with
      | true => rw [skip_cons hblank, ih, skip_cons hblank]
      | false => rw [skip_of_not_blank hblank, skip_of_not_blank hblank, unixLineBreaks_cons hc]
  | case4 => simp [skip]

theorem dropStart?_unixLineBreaks {start : Text} (hreturn : '\r' ∉ start) (hfeed : '\n' ∉ start)
    (t : Text) :
    Text.dropStart? start (unixLineBreaks t) = (Text.dropStart? start t).map unixLineBreaks := by
  induction start generalizing t with
  | nil => simp [Text.dropStart?]
  | cons s start ih =>
      have hs : s ≠ '\r' := fun h => hreturn (by simp [h])
      have hs' : s ≠ '\n' := fun h => hfeed (by simp [h])
      have hrest := ih (fun h => hreturn (List.mem_cons_of_mem _ h))
        (fun h => hfeed (List.mem_cons_of_mem _ h))
      cases t with
      | nil => simp [Text.dropStart?]
      | cons c t =>
          by_cases hc : c = '\r'
          · subst hc
            obtain ⟨rest, hbreak, -⟩ := unixLineBreaks_return t
            rw [hbreak, Text.dropStart?, Text.dropStart?, if_neg hs, if_neg hs']
            rfl
          · rw [unixLineBreaks_cons hc, Text.dropStart?, Text.dropStart?]
            split
            · exact hrest t
            · rfl

theorem word?_unixLineBreaks (t : Text) :
    word? (unixLineBreaks t) = (word? t).map fun found => (found.1, unixLineBreaks found.2) := by
  have hwords : ∀ entry ∈ words, '\r' ∉ entry.1 ∧ '\n' ∉ entry.1 := by
    simp only [words, List.forall_mem_cons]
    refine ⟨?_, ?_, ?_, ?_, ?_, ?_, by simp⟩ <;> decide
  unfold word?
  generalize words = entries at hwords
  induction entries with
  | nil => rfl
  | cons entry entries ih =>
      obtain ⟨name, v⟩ := entry
      obtain ⟨hreturn, hfeed⟩ := hwords (name, v) (by simp)
      have hrest := ih fun e he => hwords e (List.mem_cons_of_mem _ he)
      have hname := dropStart?_unixLineBreaks hreturn hfeed t
      rw [List.findSome?_cons, List.findSome?_cons]
      dsimp only at hname ⊢
      rw [hname]
      cases Text.dropStart? name t with
      | none => exact hrest
      | some rest => rfl

theorem digitIn?_lineBreak : Decimal.digitIn? 10 '\r' = none ∧ Decimal.digitIn? 10 '\n' = none := by
  decide

theorem digits_unixLineBreaks (t : Text) :
    digits (unixLineBreaks t) = ((digits t).1, unixLineBreaks (digits t).2) := by
  induction t with
  | nil => simp [digits]
  | cons c t ih =>
      by_cases hc : c = '\r'
      · subst hc
        obtain ⟨rest, hbreak, -⟩ := unixLineBreaks_return t
        rw [hbreak, digits, digits, digitIn?_lineBreak.1, digitIn?_lineBreak.2]
        simp [hbreak]
      · rw [unixLineBreaks_cons hc, digits, digits]
        cases Decimal.digitIn? 10 c with
        | none => simp [unixLineBreaks_cons hc]
        | some d => simp [ih]

theorem fraction_unixLineBreaks (t : Text) :
    fraction (unixLineBreaks t) = ((fraction t).1, unixLineBreaks (fraction t).2) := by
  cases t with
  | nil => simp [fraction]
  | cons c t =>
      by_cases hc : c = '\r'
      · subst hc
        obtain ⟨rest, hbreak, -⟩ := unixLineBreaks_return t
        rw [hbreak]
        simp [fraction, hbreak]
      · rw [unixLineBreaks_cons hc]
        by_cases hdot : c = '.'
        · subst hdot
          simp only [fraction, digits_unixLineBreaks]
          cases hdigits : digits t with
          | mk ds rest =>
              cases ds with
              | nil => simp [unixLineBreaks_cons hc]
              | cons d ds => simp
        · simp [fraction, hdot, unixLineBreaks_cons hc]

theorem afterSign_unixLineBreaks (t : Text) :
    afterSign (unixLineBreaks t) = ((afterSign t).1, unixLineBreaks (afterSign t).2) := by
  cases t with
  | nil => simp [afterSign]
  | cons c t =>
      by_cases hc : c = '\r'
      · subst hc
        obtain ⟨rest, hbreak, -⟩ := unixLineBreaks_return t
        rw [hbreak]
        simp [afterSign, hbreak]
      · rw [unixLineBreaks_cons hc]
        by_cases hminus : c = '-'
        · simp [afterSign, hminus]
        · by_cases hplus : c = '+'
          · simp [afterSign, hplus]
          · simp [afterSign, hminus, hplus, unixLineBreaks_cons hc]

theorem exponent_unixLineBreaks (t : Text) :
    exponent (unixLineBreaks t) = ((exponent t).1, unixLineBreaks (exponent t).2) := by
  cases t with
  | nil => simp [exponent]
  | cons c t =>
      by_cases hc : c = '\r'
      · subst hc
        obtain ⟨rest, hbreak, -⟩ := unixLineBreaks_return t
        rw [hbreak, exponent_cons, exponent_cons, if_neg (by decide), if_neg (by decide), hbreak]
      · rw [unixLineBreaks_cons hc, exponent_cons, exponent_cons, afterSign_unixLineBreaks]
        rw [signedExponent, signedExponent, digits_unixLineBreaks]
        split
        · cases digits (afterSign t).2 with
          | mk ds rest =>
              cases ds with
              | nil => simp [unixLineBreaks_cons hc]
              | cons d ds => rfl
        · rw [unixLineBreaks_cons hc]

theorem number_unixLineBreaks (negative : Bool) (t : Text) :
    number negative (unixLineBreaks t) =
      (number negative t).map fun found => (found.1, unixLineBreaks found.2) := by
  cases t with
  | nil => simp [number, digits, Except.map]
  | cons c t =>
      by_cases hc : c = '\r'
      · subst hc
        obtain ⟨rest, hbreak, -⟩ := unixLineBreaks_return t
        rw [hbreak, number_of_not_digit digitIn?_lineBreak.1,
          number_of_not_digit digitIn?_lineBreak.2]
        rfl
      · have hdigits := digits_unixLineBreaks (c :: t)
        rw [unixLineBreaks_cons hc] at hdigits ⊢
        unfold number
        rw [hdigits]
        cases hfound : digits (c :: t) with
        | mk ds rest =>
            cases ds with
            | nil => rfl
            | cons first more =>
                dsimp only
                by_cases hzero : first = 0
                · simp only [if_pos hzero, List.drop_succ_cons, List.drop_zero,
                    fraction_unixLineBreaks, exponent_unixLineBreaks]
                  split
                  · split <;> rfl
                  · rfl
                · simp only [if_neg hzero, fraction_unixLineBreaks, exponent_unixLineBreaks]
                  split
                  · split <;> rfl
                  · rfl

/-! ## Strings -/

theorem hexCode?_eq_none_of_return {a b c d : Char}
    (h : a = '\r' ∨ b = '\r' ∨ c = '\r' ∨ d = '\r') : hexCode? a b c d = none := by
  have hreturn : Decimal.digitIn? 16 '\r' = none := by decide
  unfold hexCode?
  rcases h with rfl | rfl | rfl | rfl
  · simp [hreturn]
  · simp [hreturn]
  · simp [hreturn]
  · simp [hreturn]

theorem stringCodes?_unixLineBreaks {t rest : Text} {codes : List Nat}
    (h : stringCodes? t = some (codes, rest)) :
    stringCodes? (unixLineBreaks t) = some (codes, unixLineBreaks rest) := by
  induction t using stringCodes?.induct generalizing codes rest with
  | case1 => simp [stringCodes?] at h
  | case2 t =>
      simp only [stringCodes?, Option.some.injEq, Prod.mk.injEq] at h
      obtain ⟨rfl, rfl⟩ := h
      rw [unixLineBreaks_cons (by decide)]
      rfl
  | case3 a b c d t ih =>
      have hclean : '\r' ∉ ['\\', 'u', a, b, c, d] := by
        intro hmem
        have hreturn : a = '\r' ∨ b = '\r' ∨ c = '\r' ∨ d = '\r' := by
          simpa [eq_comm] using hmem
        simp [stringCodes?, hexCode?_eq_none_of_return hreturn] at h
      have hbreaks := unixLineBreaks_append hclean t
      simp only [List.cons_append, List.nil_append] at hbreaks
      rw [hbreaks]
      simp only [stringCodes?, Option.bind_eq_bind, Option.bind_eq_some_iff] at h ⊢
      obtain ⟨code, hcode, ⟨codes', after⟩, htail, hresult⟩ := h
      refine ⟨code, hcode, ⟨codes', unixLineBreaks after⟩, ih htail, ?_⟩
      simp only [Option.pure_def, Option.some.injEq, Prod.mk.injEq] at hresult ⊢
      exact ⟨hresult.1, congrArg unixLineBreaks hresult.2⟩
  | case4 c t hu ih =>
      rw [stringCodes?.eq_4 c t hu] at h
      simp only [Option.bind_eq_bind, Option.bind_eq_some_iff] at h
      obtain ⟨e, he, ⟨codes', after⟩, htail, hresult⟩ := h
      have hc : c ≠ '\r' := by
        rintro rfl
        have hnone : escape? '\r' = none := by decide
        simp [hnone] at he
      have hu' : c ≠ 'u' := by
        rintro rfl
        have hnone : escape? 'u' = none := by decide
        simp [hnone] at he
      rw [unixLineBreaks_cons (by decide), unixLineBreaks_cons hc,
        stringCodes?.eq_4 c _ fun _ _ _ _ _ h _ => hu' h]
      simp only [Option.bind_eq_bind, Option.bind_eq_some_iff]
      refine ⟨e, he, ⟨codes', unixLineBreaks after⟩, ih htail, ?_⟩
      simp only [Option.pure_def, Option.some.injEq, Prod.mk.injEq] at hresult ⊢
      exact ⟨hresult.1, congrArg unixLineBreaks hresult.2⟩
  | case5 c t hquote hcode hescape ih =>
      rw [stringCodes?.eq_5 c t hquote hcode hescape] at h
      simp only [Option.bind_eq_bind, Option.bind_eq_some_iff] at h
      obtain ⟨u, hguard, ⟨codes', after⟩, htail, hresult⟩ := h
      have hplain : 32 ≤ c.toNat ∧ c ≠ '\\' := (Option.guard_eq_some' u).mp hguard
      have hc : c ≠ '\r' := by
        rintro rfl
        exact absurd hplain.1 (by decide)
      rw [unixLineBreaks_cons hc, stringCodes?.eq_5 c _ hquote
        (fun _ _ _ _ _ h _ => hplain.2 h) (fun _ _ h _ => hplain.2 h)]
      simp only [Option.bind_eq_bind, Option.bind_eq_some_iff]
      refine ⟨u, hguard, ⟨codes', unixLineBreaks after⟩, ih htail, ?_⟩
      simp only [Option.pure_def, Option.some.injEq, Prod.mk.injEq] at hresult ⊢
      exact ⟨hresult.1, congrArg unixLineBreaks hresult.2⟩

theorem string_unixLineBreaks {t rest s : Text} (h : string t = .ok (s, rest)) :
    string (unixLineBreaks t) = .ok (s, unixLineBreaks rest) := by
  obtain ⟨codes, hcodes, rfl⟩ := string_eq_ok_iff.mp h
  exact string_eq_ok_iff.mpr ⟨codes, stringCodes?_unixLineBreaks hcodes, rfl⟩

/-! ## Lists and objects

Here `read'` stands for `read` with the bound that suffices for the text with other line breaks, and
`limit` for the length that such texts stay below. -/

section Collections

variable {read read' : Text → Except Fault (Value × Text)} {limit : Nat}

theorem elements_unixLineBreaks
    (hread : ∀ {t v rest}, read t = .ok (v, rest) → (unixLineBreaks t).length < limit →
      read' (unixLineBreaks t) = .ok (v, unixLineBreaks rest))
    (hlength : ∀ {t v rest}, read' t = .ok (v, rest) → rest.length < t.length)
    {bound bound' : Nat} {t rest : Text} {vs : List Value}
    (h : elements read bound t = .ok (vs, rest)) (hlimit : (unixLineBreaks t).length < limit)
    (hbound : (unixLineBreaks t).length < bound') :
    elements read' bound' (unixLineBreaks t) = .ok (vs, unixLineBreaks rest) := by
  induction bound generalizing bound' t vs with
  | zero => simp [elements] at h
  | succ bound ih =>
      obtain ⟨v, after, hv, hend⟩ := elements_succ_eq_ok_iff.mp h
      have hv' := hread hv hlimit
      have hafter := hlength hv'
      have hskipped := skip_length_le (unixLineBreaks after)
      -- the bound is not used up, since the element has used up a character
      obtain ⟨bound', rfl⟩ := Nat.exists_eq_succ_of_ne_zero (by omega : bound' ≠ 0)
      refine elements_succ_eq_ok_iff.mpr ⟨v, _, hv', ?_⟩
      rcases hend with ⟨hskip, rfl⟩ | ⟨tail, more, hskip, hmore, rfl⟩
      · left
        rw [skip_unixLineBreaks, hskip, unixLineBreaks_cons (by decide)]
        exact ⟨rfl, rfl⟩
      · right
        have hskip' : skip (unixLineBreaks after) = ',' :: unixLineBreaks tail := by
          rw [skip_unixLineBreaks, hskip, unixLineBreaks_cons (by decide)]
        have htail := skip_length_le (unixLineBreaks tail)
        rw [hskip', List.length_cons] at hskipped
        rw [skip_unixLineBreaks] at htail
        refine ⟨unixLineBreaks tail, more, hskip', ?_, rfl⟩
        rw [skip_unixLineBreaks]
        exact ih hmore (by omega) (by omega)

theorem members_unixLineBreaks
    (hread : ∀ {t v rest}, read t = .ok (v, rest) → (unixLineBreaks t).length < limit →
      read' (unixLineBreaks t) = .ok (v, unixLineBreaks rest))
    (hlength : ∀ {t v rest}, read' t = .ok (v, rest) → rest.length < t.length)
    {bound bound' : Nat} {t rest : Text} {entries : List (Value × Value)}
    (h : members read bound t = .ok (entries, rest)) (hlimit : (unixLineBreaks t).length < limit)
    (hbound : (unixLineBreaks t).length < bound') :
    members read' bound' (unixLineBreaks t) = .ok (entries, unixLineBreaks rest) := by
  induction bound generalizing bound' t entries with
  | zero => simp [members] at h
  | succ bound ih =>
      obtain ⟨body, key, after, colon, v, behind, rfl, hkey, hcolon, hv, hend⟩ :=
        members_succ_eq_ok_iff.mp h
      rw [unixLineBreaks_cons (by decide)] at hlimit hbound ⊢
      rw [List.length_cons] at hlimit hbound
      have hkey' := string_unixLineBreaks hkey
      have hafter := string_length_lt hkey'
      have hcolon' : skip (unixLineBreaks after) = ':' :: unixLineBreaks colon := by
        rw [skip_unixLineBreaks, hcolon, unixLineBreaks_cons (by decide)]
      have hskipped := skip_length_le (unixLineBreaks after)
      have hskipped' := skip_length_le (unixLineBreaks colon)
      rw [hcolon', List.length_cons] at hskipped
      have hv' := hread hv (by rw [← skip_unixLineBreaks]; omega)
      rw [← skip_unixLineBreaks] at hv'
      have hbehind := hlength hv'
      have hskipped'' := skip_length_le (unixLineBreaks behind)
      obtain ⟨bound', rfl⟩ := Nat.exists_eq_succ_of_ne_zero (by omega : bound' ≠ 0)
      refine members_succ_eq_ok_iff.mpr
        ⟨unixLineBreaks body, key, _, _, v, _, rfl, hkey', hcolon', hv', ?_⟩
      rcases hend with ⟨hskip, rfl⟩ | ⟨tail, more, hskip, hmore, rfl⟩
      · left
        rw [skip_unixLineBreaks, hskip, unixLineBreaks_cons (by decide)]
        exact ⟨rfl, rfl⟩
      · right
        have hskip' : skip (unixLineBreaks behind) = ',' :: unixLineBreaks tail := by
          rw [skip_unixLineBreaks, hskip, unixLineBreaks_cons (by decide)]
        have htail := skip_length_le (unixLineBreaks tail)
        rw [hskip', List.length_cons] at hskipped''
        rw [skip_unixLineBreaks] at htail
        refine ⟨unixLineBreaks tail, more, hskip', ?_, rfl⟩
        rw [skip_unixLineBreaks]
        exact ih hmore (by omega) (by omega)

/-- A character that is no line break comes to the front in both texts or in neither. -/
theorem ne_cons_unixLineBreaks {c : Char} (hc : c ≠ '\n') {t : Text}
    (h : ∀ tail, t ≠ c :: tail) (tail : Text) : unixLineBreaks t ≠ c :: tail := by
  cases t with
  | nil => simp
  | cons d t =>
      by_cases hd : d = '\r'
      · subst hd
        obtain ⟨rest, hbreak, -⟩ := unixLineBreaks_return t
        rw [hbreak]
        exact fun heq => hc (List.cons.inj heq).1.symm
      · rw [unixLineBreaks_cons hd]
        exact fun heq => h t (by rw [(List.cons.inj heq).1])

end Collections

/-! ## Values -/

theorem value_unixLineBreaks {bound bound' depth : Nat} {t rest : Text} {v : Value}
    (h : value bound depth t = .ok (v, rest)) (hbound : (unixLineBreaks t).length < bound') :
    value bound' depth (unixLineBreaks t) = .ok (v, unixLineBreaks rest) := by
  induction depth generalizing t rest v with
  | zero =>
      refine value_eq_ok_iff.mpr ?_
      rcases value_eq_ok_iff.mp h with hword | ⟨body, s, rfl, hs, rfl⟩ | ⟨_, _, _, hdepth, -⟩ |
        ⟨_, _, _, hdepth, -⟩ | ⟨body, rfl, hnumber⟩ | hnumber
      · exact Or.inl (by rw [word?_unixLineBreaks, hword]; rfl)
      · rw [unixLineBreaks_cons (by decide)]
        exact Or.inr (Or.inl ⟨_, s, rfl, string_unixLineBreaks hs, rfl⟩)
      · simp at hdepth
      · simp at hdepth
      · rw [unixLineBreaks_cons (by decide)]
        exact Or.inr (Or.inr (Or.inr (Or.inr (Or.inl
          ⟨_, rfl, by rw [number_unixLineBreaks, hnumber]; rfl⟩))))
      · exact Or.inr (Or.inr (Or.inr (Or.inr (Or.inr
          (by rw [number_unixLineBreaks, hnumber]; rfl)))))
  | succ depth ih =>
      refine value_eq_ok_iff.mpr ?_
      rcases value_eq_ok_iff.mp h with hword | ⟨body, s, rfl, hs, rfl⟩ |
        ⟨body, inner, rfl, hdepth, h⟩ | ⟨body, inner, rfl, hdepth, h⟩ | ⟨body, rfl, hnumber⟩ |
        hnumber
      · exact Or.inl (by rw [word?_unixLineBreaks, hword]; rfl)
      · rw [unixLineBreaks_cons (by decide)]
        exact Or.inr (Or.inl ⟨_, s, rfl, string_unixLineBreaks hs, rfl⟩)
      · obtain rfl := Nat.succ.inj hdepth
        rw [unixLineBreaks_cons (by decide)] at hbound ⊢
        refine Or.inr (Or.inr (Or.inl ⟨_, _, rfl, rfl, list_eq_ok_iff.mpr ?_⟩))
        rw [List.length_cons] at hbound
        have hskipped := skip_length_le (unixLineBreaks body)
        rw [skip_unixLineBreaks] at hskipped ⊢
        rcases list_eq_ok_iff.mp h with ⟨hskip, rfl⟩ | ⟨hne, vs, hvs, rfl⟩
        · exact Or.inl ⟨by rw [hskip, unixLineBreaks_cons (by decide)], rfl⟩
        · exact Or.inr ⟨ne_cons_unixLineBreaks (by decide) hne, vs,
            elements_unixLineBreaks ih value_length_lt hvs (by omega) (by omega), rfl⟩
      · obtain rfl := Nat.succ.inj hdepth
        rw [unixLineBreaks_cons (by decide)] at hbound ⊢
        refine Or.inr (Or.inr (Or.inr (Or.inl ⟨_, _, rfl, rfl, object_eq_ok_iff.mpr ?_⟩)))
        rw [List.length_cons] at hbound
        have hskipped := skip_length_le (unixLineBreaks body)
        rw [skip_unixLineBreaks] at hskipped ⊢
        rcases object_eq_ok_iff.mp h with ⟨hskip, rfl⟩ | ⟨hne, entries, hentries, rfl⟩
        · exact Or.inl ⟨by rw [hskip, unixLineBreaks_cons (by decide)], rfl⟩
        · exact Or.inr ⟨ne_cons_unixLineBreaks (by decide) hne, entries,
            members_unixLineBreaks ih value_length_lt hentries (by omega) (by omega), rfl⟩
      · rw [unixLineBreaks_cons (by decide)]
        exact Or.inr (Or.inr (Or.inr (Or.inr (Or.inl
          ⟨_, rfl, by rw [number_unixLineBreaks, hnumber]; rfl⟩))))
      · exact Or.inr (Or.inr (Or.inr (Or.inr (Or.inr
          (by rw [number_unixLineBreaks, hnumber]; rfl)))))

/-- The value of a JSON text does not depend on how its line breaks are written. -/
theorem read_unixLineBreaks {t : Text} {depth : Nat} {v : Value} (h : read t depth = .ok v) :
    read (unixLineBreaks t) depth = .ok v := by
  obtain ⟨rest, hv, hend⟩ := read_eq_ok_iff.mp h
  refine read_eq_ok_iff.mpr ⟨unixLineBreaks rest, ?_, ?_⟩
  · have hskipped := skip_length_le (unixLineBreaks t)
    rw [skip_unixLineBreaks] at hskipped ⊢
    exact value_unixLineBreaks hv (by omega)
  · rw [skip_unixLineBreaks, hend, unixLineBreaks_nil]

end LintReport.Json
