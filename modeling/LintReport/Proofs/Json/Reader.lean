import LintReport.Json.Reader
import LintReport.Proofs.Result
import LintReport.Proofs.Text.Trim
import Mathlib.Data.Option.Basic

/-!
# When a JSON text is read

For each part of the reader, the texts on which it succeeds, and what it leaves of them. Whatever is
read uses up at least one character.
-/

namespace LintReport.Json

/-! ## Blanks, words and numbers -/

theorem skip_cons {c : Char} (hc : isBlank c = true) (t : Text) : skip (c :: t) = skip t := by
  simp [skip, hc]

theorem skip_of_not_blank {c : Char} (hc : isBlank c = false) (t : Text) :
    skip (c :: t) = c :: t := by
  simp [skip, hc]

theorem skip_length_le (t : Text) : (skip t).length ≤ t.length :=
  (List.dropWhile_sublist _).length_le

/-- A word is recognised by its first letter. -/
theorem word?_eq_none {c : Char} (hc : ∀ entry ∈ words, entry.1.head? ≠ some c) (t : Text)
    (hne : ∀ entry ∈ words, entry.1 ≠ []) : word? (c :: t) = none := by
  unfold word?
  rw [List.findSome?_eq_none_iff]
  rintro ⟨name, v⟩ hentry
  have hhead := hc (name, v) hentry
  cases name with
  | nil => exact absurd rfl (hne _ hentry)
  | cons s name =>
      have hs : s ≠ c := by simpa using hhead
      simp [Text.dropStart?, hs]

theorem words_ne_nil : ∀ entry ∈ words, entry.1 ≠ [] := by
  simp only [words, List.forall_mem_cons]
  refine ⟨?_, ?_, ?_, ?_, ?_, ?_, by simp⟩ <;> decide

theorem word?_length_lt {t rest : Text} {v : Value} (h : word? t = some (v, rest)) :
    rest.length < t.length := by
  unfold word? at h
  obtain ⟨⟨name, v'⟩, hentry, hdrop⟩ := List.exists_of_findSome?_eq_some h
  obtain ⟨rest', hrest, heq⟩ := Option.map_eq_some_iff.mp hdrop
  have hname : 0 < name.length := List.length_pos_iff.mpr (words_ne_nil _ hentry)
  have happend := congrArg List.length (Text.append_of_dropStart? hrest)
  simp only [Prod.mk.injEq] at heq
  rw [List.length_append] at happend
  rw [← heq.2]
  omega

theorem digits_length_le (t : Text) : (digits t).2.length ≤ t.length := by
  induction t with
  | nil => simp [digits]
  | cons c t ih =>
      rw [digits]
      split
      · simp only [List.length_cons]
        omega
      · simp

theorem digits_cons_length_lt {t rest : Text} {d : Nat} {ds : List Nat}
    (h : digits t = (d :: ds, rest)) : rest.length < t.length := by
  cases t with
  | nil => simp [digits] at h
  | cons c t =>
      rw [digits] at h
      split at h
      · simp only [Prod.mk.injEq] at h
        have hle := digits_length_le t
        rw [← h.2, List.length_cons]
        omega
      · simp at h

theorem fraction_length_le (t : Text) : (fraction t).2.length ≤ t.length := by
  unfold fraction
  split
  · next rest =>
      have hle := digits_length_le rest
      split
      · simp
      · simp only [List.length_cons]
        omega
  · simp

/-- Whether a text begins with a minus sign, and what follows the sign, if there is one. -/
def afterSign : Text → Bool × Text
  | '-' :: rest => (true, rest)
  | '+' :: rest => (false, rest)
  | t => (false, t)

/-- The exponent in a text of which this is left after the sign. -/
def signedExponent (t : Text) (sign : Bool × Text) : Option Int × Text :=
  match digits sign.2 with
  | ([], _) => (none, t)
  | (ds, rest) => (some (if sign.1 then -(Text.ofDigits ds : Int) else Text.ofDigits ds), rest)

theorem exponent_cons (c : Char) (t : Text) :
    exponent (c :: t) =
      if c = 'e' ∨ c = 'E' then signedExponent (c :: t) (afterSign t) else (none, c :: t) := by
  match t with
  | [] => rfl
  | '-' :: rest => rfl
  | '+' :: rest => rfl
  | d :: rest =>
      by_cases hminus : d = '-'
      · subst hminus
        rfl
      · by_cases hplus : d = '+'
        · subst hplus
          rfl
        · have hsign : afterSign (d :: rest) = (false, d :: rest) := by
            simp [afterSign, hminus, hplus]
          rw [hsign]
          simp [exponent, hminus, hplus]
          rfl

theorem afterSign_length_le (t : Text) : (afterSign t).2.length ≤ t.length := by
  unfold afterSign
  split <;> simp

theorem exponent_length_le (t : Text) : (exponent t).2.length ≤ t.length := by
  cases t with
  | nil => simp [exponent]
  | cons c t =>
      rw [exponent_cons, signedExponent]
      have hsign := afterSign_length_le t
      have hle := digits_length_le (afterSign t).2
      split
      · split
        · simp
        · next ds rest hdigits =>
            rw [hdigits] at hle
            simp only [List.length_cons] at hle ⊢
            omega
      · simp

/-- Only a digit begins a number. -/
theorem number_of_not_digit {c : Char} (hc : Decimal.digitIn? 10 c = none) (negative : Bool)
    (t : Text) : number negative (c :: t) = .error .malformed := by
  simp [number, digits, hc]

theorem exists_digit_of_number_eq_ok {negative : Bool} {t rest : Text} {v : Value}
    (h : number negative t = .ok (v, rest)) :
    ∃ c tail, t = c :: tail ∧ (Decimal.digitIn? 10 c).isSome := by
  cases t with
  | nil => simp [number, digits] at h
  | cons c tail =>
      cases hc : Decimal.digitIn? 10 c with
      | none =>
          rw [number_of_not_digit hc] at h
          simp at h
      | some d => exact ⟨c, tail, rfl, by rw [hc]; rfl⟩

theorem number_length_lt {negative : Bool} {t rest : Text} {v : Value}
    (h : number negative t = .ok (v, rest)) : rest.length < t.length := by
  unfold number at h
  cases hdigits : digits t with
  | mk ds after =>
      cases ds with
      | nil => simp [hdigits] at h
      | cons first more =>
          have hafter := digits_cons_length_lt hdigits
          have hdrop : (t.drop 1).length < t.length := by
            rw [List.length_drop]
            omega
          -- what is left of the whole part, whichever way it ends
          have hwhole : (if first = 0 then (([0] : List Nat), t.drop 1)
              else (first :: more, after)).2.length < t.length := by
            split
            · exact hdrop
            · exact hafter
          rw [hdigits] at h
          dsimp only at h
          generalize (if first = 0 then (([0] : List Nat), t.drop 1)
            else (first :: more, after)) = whole at h hwhole
          have hfraction := fraction_length_le whole.2
          have hexponent := exponent_length_le (fraction whole.2).2
          split at h
          · split at h
            · simp at h
            · simp only [Except.ok.injEq, Prod.mk.injEq] at h
              rw [← h.2]
              omega
          · simp only [Except.ok.injEq, Prod.mk.injEq] at h
            rw [← h.2]
            omega

/-! ## Strings -/

theorem stringCodes?_length_lt {t rest : Text} {codes : List Nat}
    (h : stringCodes? t = some (codes, rest)) : rest.length < t.length := by
  induction t using stringCodes?.induct generalizing codes rest with
  | case1 => simp [stringCodes?] at h
  | case2 t =>
      simp only [stringCodes?, Option.some.injEq, Prod.mk.injEq] at h
      simp [h.2]
  | case3 a b c d t ih =>
      simp only [stringCodes?, Option.bind_eq_bind, Option.bind_eq_some_iff, Option.pure_def,
        Option.some.injEq, Prod.mk.injEq] at h
      obtain ⟨code, -, ⟨codes', after⟩, htail, -, rfl⟩ := h
      have hlt := ih htail
      simp only [List.length_cons]
      omega
  | case4 c t hu ih =>
      rw [stringCodes?.eq_4 c t hu] at h
      simp only [Option.bind_eq_bind, Option.bind_eq_some_iff, Option.pure_def,
        Option.some.injEq, Prod.mk.injEq] at h
      obtain ⟨e, -, ⟨codes', after⟩, htail, -, rfl⟩ := h
      have hlt := ih htail
      simp only [List.length_cons]
      omega
  | case5 c t hquote hcode hescape ih =>
      rw [stringCodes?.eq_5 c t hquote hcode hescape] at h
      simp only [Option.bind_eq_bind, Option.bind_eq_some_iff, Option.pure_def,
        Option.some.injEq, Prod.mk.injEq] at h
      obtain ⟨_, -, ⟨codes', after⟩, htail, -, rfl⟩ := h
      have hlt := ih htail
      simp only [List.length_cons]
      omega

theorem string_eq_ok_iff {t rest s : Text} :
    string t = .ok (s, rest) ↔ ∃ codes, stringCodes? t = some (codes, rest) ∧ s = ofCodes codes := by
  unfold string
  cases stringCodes? t with
  | none => simp
  | some found =>
      obtain ⟨codes, after⟩ := found
      simp only [Except.ok.injEq, Prod.mk.injEq, Option.some.injEq]
      constructor
      · rintro ⟨rfl, rfl⟩
        exact ⟨codes, ⟨rfl, rfl⟩, rfl⟩
      · rintro ⟨codes', ⟨rfl, rfl⟩, rfl⟩
        exact ⟨rfl, rfl⟩

theorem string_length_lt {t rest s : Text} (h : string t = .ok (s, rest)) :
    rest.length < t.length := by
  obtain ⟨codes, hcodes, -⟩ := string_eq_ok_iff.mp h
  exact stringCodes?_length_lt hcodes

/-! ## Lists and objects -/

section Collections

variable {read : Text → Except Fault (Value × Text)} {bound : Nat} {t rest : Text}

theorem elements_succ_eq_ok_iff {vs : List Value} :
    elements read (bound + 1) t = .ok (vs, rest) ↔
      ∃ v after, read t = .ok (v, after) ∧
        ((skip after = ']' :: rest ∧ vs = [v]) ∨
          ∃ tail more, skip after = ',' :: tail ∧
            elements read bound (skip tail) = .ok (more, rest) ∧ vs = v :: more) := by
  rw [elements, bind_eq_ok_iff]
  constructor
  · rintro ⟨⟨v, after⟩, hread, h⟩
    refine ⟨v, after, hread, ?_⟩
    dsimp only at h
    split at h
    · next tail hskip =>
        rw [pure_eq_ok_iff] at h
        simp only [Prod.mk.injEq] at h
        obtain ⟨rfl, rfl⟩ := h
        exact Or.inl ⟨hskip, rfl⟩
    · next tail hskip =>
        obtain ⟨⟨more, rest'⟩, hmore, hresult⟩ := bind_eq_ok_iff.mp h
        rw [pure_eq_ok_iff] at hresult
        simp only [Prod.mk.injEq] at hresult
        obtain ⟨rfl, rfl⟩ := hresult
        exact Or.inr ⟨tail, more, hskip, hmore, rfl⟩
    · simp at h
  · rintro ⟨v, after, hread, ⟨hskip, rfl⟩ | ⟨tail, more, hskip, hmore, rfl⟩⟩
    · refine ⟨(v, after), hread, ?_⟩
      dsimp only
      rw [hskip]
      rfl
    · refine ⟨(v, after), hread, ?_⟩
      dsimp only
      rw [hskip]
      exact bind_eq_ok_iff.mpr ⟨(more, rest), hmore, rfl⟩

theorem members_succ_eq_ok_iff {entries : List (Value × Value)} :
    members read (bound + 1) t = .ok (entries, rest) ↔
      ∃ body key after colon v behind, t = '"' :: body ∧ string body = .ok (key, after) ∧
        skip after = ':' :: colon ∧ read (skip colon) = .ok (v, behind) ∧
        ((skip behind = '\x7d' :: rest ∧ entries = [(.str key, v)]) ∨
          ∃ tail more, skip behind = ',' :: tail ∧
            members read bound (skip tail) = .ok (more, rest) ∧
            entries = (.str key, v) :: more) := by
  constructor
  · intro h
    rw [members.eq_def] at h
    dsimp only at h
    split at h
    · next body =>
        obtain ⟨⟨key, after⟩, hkey, h⟩ := bind_eq_ok_iff.mp h
        dsimp only at h
        split at h
        · next colon hcolon =>
            obtain ⟨⟨v, behind⟩, hread, h⟩ := bind_eq_ok_iff.mp h
            refine ⟨body, key, after, colon, v, behind, rfl, hkey, hcolon, hread, ?_⟩
            dsimp only at h
            split at h
            · next tail hskip =>
                rw [pure_eq_ok_iff] at h
                simp only [Prod.mk.injEq] at h
                obtain ⟨rfl, rfl⟩ := h
                exact Or.inl ⟨hskip, rfl⟩
            · next tail hskip =>
                obtain ⟨⟨more, rest'⟩, hmore, hresult⟩ := bind_eq_ok_iff.mp h
                rw [pure_eq_ok_iff] at hresult
                simp only [Prod.mk.injEq] at hresult
                obtain ⟨rfl, rfl⟩ := hresult
                exact Or.inr ⟨tail, more, hskip, hmore, rfl⟩
            · simp at h
        · simp at h
    · simp at h
  · rintro ⟨body, key, after, colon, v, behind, rfl, hkey, hcolon, hread, hrest⟩
    rw [members]
    refine bind_eq_ok_iff.mpr ⟨(key, after), hkey, ?_⟩
    dsimp only
    rw [hcolon]
    refine bind_eq_ok_iff.mpr ⟨(v, behind), hread, ?_⟩
    dsimp only
    rcases hrest with ⟨hskip, rfl⟩ | ⟨tail, more, hskip, hmore, rfl⟩
    · rw [hskip]
      rfl
    · rw [hskip]
      exact bind_eq_ok_iff.mpr ⟨(more, rest), hmore, rfl⟩

theorem list_eq_ok_iff {v : Value} :
    list read bound t = .ok (v, rest) ↔
      (skip t = ']' :: rest ∧ v = .list []) ∨
        ((∀ tail, skip t ≠ ']' :: tail) ∧
          ∃ vs, elements read bound (skip t) = .ok (vs, rest) ∧ v = .list vs) := by
  unfold list
  split
  · next tail hskip =>
      simp only [Except.ok.injEq, Prod.mk.injEq, hskip, List.cons.injEq, true_and]
      constructor
      · rintro ⟨rfl, rfl⟩
        exact Or.inl ⟨rfl, rfl⟩
      · rintro (⟨rfl, rfl⟩ | ⟨hne, -⟩)
        · exact ⟨rfl, rfl⟩
        · exact absurd rfl (hne tail)
  · next hne =>
      rw [bind_eq_ok_iff]
      constructor
      · rintro ⟨⟨vs, rest'⟩, hvs, hresult⟩
        rw [pure_eq_ok_iff] at hresult
        simp only [Prod.mk.injEq] at hresult
        obtain ⟨rfl, rfl⟩ := hresult
        exact Or.inr ⟨hne, vs, hvs, rfl⟩
      · rintro (⟨hskip, -⟩ | ⟨-, vs, hvs, rfl⟩)
        · exact absurd hskip (hne rest)
        · exact ⟨(vs, rest), hvs, rfl⟩

theorem object_eq_ok_iff {v : Value} :
    object read bound t = .ok (v, rest) ↔
      (skip t = '\x7d' :: rest ∧ v = .map []) ∨
        ((∀ tail, skip t ≠ '\x7d' :: tail) ∧
          ∃ entries, members read bound (skip t) = .ok (entries, rest) ∧
            v = .ofEntries entries) := by
  unfold object
  split
  · next tail hskip =>
      simp only [Except.ok.injEq, Prod.mk.injEq, hskip, List.cons.injEq, true_and]
      constructor
      · rintro ⟨rfl, rfl⟩
        exact Or.inl ⟨rfl, rfl⟩
      · rintro (⟨rfl, rfl⟩ | ⟨hne, -⟩)
        · exact ⟨rfl, rfl⟩
        · exact absurd rfl (hne tail)
  · next hne =>
      rw [bind_eq_ok_iff]
      constructor
      · rintro ⟨⟨entries, rest'⟩, hentries, hresult⟩
        rw [pure_eq_ok_iff] at hresult
        simp only [Prod.mk.injEq] at hresult
        obtain ⟨rfl, rfl⟩ := hresult
        exact Or.inr ⟨hne, entries, hentries, rfl⟩
      · rintro (⟨hskip, -⟩ | ⟨-, entries, hentries, rfl⟩)
        · exact absurd hskip (hne rest)
        · exact ⟨(entries, rest), hentries, rfl⟩

theorem elements_length_lt (hread : ∀ {t v rest}, read t = .ok (v, rest) → rest.length < t.length)
    {vs : List Value} (h : elements read bound t = .ok (vs, rest)) : rest.length < t.length := by
  induction bound generalizing t vs with
  | zero => simp [elements] at h
  | succ bound ih =>
      obtain ⟨v, after, hv, hend⟩ := elements_succ_eq_ok_iff.mp h
      have hafter := hread hv
      have hskipped := skip_length_le after
      rcases hend with ⟨hskip, -⟩ | ⟨tail, more, hskip, hmore, -⟩
      · rw [hskip, List.length_cons] at hskipped
        omega
      · have hrest := ih hmore
        have htail := skip_length_le tail
        rw [hskip, List.length_cons] at hskipped
        omega

theorem members_length_lt (hread : ∀ {t v rest}, read t = .ok (v, rest) → rest.length < t.length)
    {entries : List (Value × Value)} (h : members read bound t = .ok (entries, rest)) :
    rest.length < t.length := by
  induction bound generalizing t entries with
  | zero => simp [members] at h
  | succ bound ih =>
      obtain ⟨body, key, after, colon, v, behind, rfl, hkey, hcolon, hv, hend⟩ :=
        members_succ_eq_ok_iff.mp h
      have hafter := string_length_lt hkey
      have hbehind := hread hv
      have hskipped := skip_length_le after
      have hskipped' := skip_length_le colon
      have hskipped'' := skip_length_le behind
      rw [hcolon, List.length_cons] at hskipped
      rw [List.length_cons]
      rcases hend with ⟨hskip, -⟩ | ⟨tail, more, hskip, hmore, -⟩
      · rw [hskip, List.length_cons] at hskipped''
        omega
      · have hrest := ih hmore
        have htail := skip_length_le tail
        rw [hskip, List.length_cons] at hskipped''
        omega

end Collections

/-! ## Values -/

theorem word?_of_digit {c : Char} (hc : (Decimal.digitIn? 10 c).isSome) (t : Text) :
    word? (c :: t) = none := by
  apply word?_eq_none _ t words_ne_nil
  have hletters : ∀ entry ∈ words, ∀ s, entry.1.head? = some s →
      Decimal.digitIn? 10 s = none := by
    simp only [words, List.forall_mem_cons]
    refine ⟨?_, ?_, ?_, ?_, ?_, ?_, by simp⟩ <;>
      · intro s hs
        obtain rfl := Option.some.inj hs
        decide
  intro entry hentry hhead
  rw [hletters entry hentry c hhead] at hc
  simp at hc

/-- The forms of a value at the front of a text: a word, a string, a list, an object, a negative
number, or any other number. -/
theorem value_eq_ok_iff {bound depth : Nat} {t rest : Text} {v : Value} :
    value bound depth t = .ok (v, rest) ↔
      word? t = some (v, rest) ∨
      (∃ body s, t = '"' :: body ∧ string body = .ok (s, rest) ∧ v = .str s) ∨
      (∃ body inner, t = '[' :: body ∧ depth = inner + 1 ∧
        list (value bound inner) bound body = .ok (v, rest)) ∨
      (∃ body inner, t = '\x7b' :: body ∧ depth = inner + 1 ∧
        object (value bound inner) bound body = .ok (v, rest)) ∨
      (∃ body, t = '-' :: body ∧ number true body = .ok (v, rest)) ∨
      number false t = .ok (v, rest) := by
  constructor
  · intro h
    rw [value.eq_def] at h
    split at h
    · next found hword => exact Or.inl (hword.trans (congrArg some (Except.ok.inj h)))
    · next body hword =>
        obtain ⟨⟨s, rest'⟩, hs, hresult⟩ := bind_eq_ok_iff.mp h
        rw [pure_eq_ok_iff] at hresult
        simp only [Prod.mk.injEq] at hresult
        obtain ⟨rfl, rfl⟩ := hresult
        exact Or.inr (Or.inl ⟨body, s, rfl, hs, rfl⟩)
    · simp at h
    · simp at h
    · next body inner hword => exact Or.inr (Or.inr (Or.inl ⟨body, inner, rfl, rfl, h⟩))
    · next body inner hword =>
        exact Or.inr (Or.inr (Or.inr (Or.inl ⟨body, inner, rfl, rfl, h⟩)))
    · next body hword => exact Or.inr (Or.inr (Or.inr (Or.inr (Or.inl ⟨body, rfl, h⟩))))
    · exact Or.inr (Or.inr (Or.inr (Or.inr (Or.inr h))))
  · rintro (h | ⟨body, s, rfl, hs, rfl⟩ | ⟨body, inner, rfl, rfl, h⟩ |
      ⟨body, inner, rfl, rfl, h⟩ | ⟨body, rfl, h⟩ | h)
    · rw [value.eq_def, h]
    · have hword : word? ('"' :: body) = none := rfl
      rw [value.eq_def, hword]
      exact bind_eq_ok_iff.mpr ⟨(s, rest), hs, rfl⟩
    · have hword : word? ('[' :: body) = none := rfl
      rw [value.eq_def, hword]
      exact h
    · have hword : word? ('\x7b' :: body) = none := rfl
      rw [value.eq_def, hword]
      exact h
    · obtain ⟨c, tail, rfl, hc⟩ := exists_digit_of_number_eq_ok h
      -- a minus sign may also begin a word, but no digit follows it there
      have hI : 'I' ≠ c := by
        rintro rfl
        exact absurd hc (by decide)
      have hword : word? ('-' :: c :: tail) = none := by
        simp [word?, words, Text.dropStart?, hI]
      rw [value.eq_def, hword]
      exact h
    · obtain ⟨c, tail, rfl, hc⟩ := exists_digit_of_number_eq_ok h
      have hquote : c ≠ '"' := by
        rintro rfl
        exact absurd hc (by decide)
      have hbracket : c ≠ '[' := by
        rintro rfl
        exact absurd hc (by decide)
      have hbrace : c ≠ '\x7b' := by
        rintro rfl
        exact absurd hc (by decide)
      have hminus : c ≠ '-' := by
        rintro rfl
        exact absurd hc (by decide)
      rw [value.eq_def, word?_of_digit hc]
      split <;> simp_all

theorem value_length_lt {bound depth : Nat} {t rest : Text} {v : Value}
    (h : value bound depth t = .ok (v, rest)) : rest.length < t.length := by
  induction depth generalizing t rest v with
  | zero =>
      rcases value_eq_ok_iff.mp h with hword | ⟨body, s, rfl, hs, -⟩ | ⟨_, _, _, hdepth, -⟩ |
        ⟨_, _, _, hdepth, -⟩ | ⟨body, rfl, hnumber⟩ | hnumber
      · exact word?_length_lt hword
      · exact Nat.lt_succ_of_lt (string_length_lt hs)
      · simp at hdepth
      · simp at hdepth
      · exact Nat.lt_succ_of_lt (number_length_lt hnumber)
      · exact number_length_lt hnumber
  | succ depth ih =>
      rcases value_eq_ok_iff.mp h with hword | ⟨body, s, rfl, hs, -⟩ | ⟨body, inner, rfl, hdepth, h⟩ |
        ⟨body, inner, rfl, hdepth, h⟩ | ⟨body, rfl, hnumber⟩ | hnumber
      · exact word?_length_lt hword
      · exact Nat.lt_succ_of_lt (string_length_lt hs)
      · obtain rfl := Nat.succ.inj hdepth
        have hskipped := skip_length_le body
        rw [List.length_cons]
        rcases list_eq_ok_iff.mp h with ⟨hskip, -⟩ | ⟨-, vs, hvs, -⟩
        · rw [hskip, List.length_cons] at hskipped
          omega
        · have hlt := elements_length_lt ih hvs
          omega
      · obtain rfl := Nat.succ.inj hdepth
        have hskipped := skip_length_le body
        rw [List.length_cons]
        rcases object_eq_ok_iff.mp h with ⟨hskip, -⟩ | ⟨-, entries, hentries, -⟩
        · rw [hskip, List.length_cons] at hskipped
          omega
        · have hlt := members_length_lt ih hentries
          omega
      · exact Nat.lt_succ_of_lt (number_length_lt hnumber)
      · exact number_length_lt hnumber

theorem read_eq_ok_iff {t : Text} {depth : Nat} {v : Value} :
    read t depth = .ok v ↔
      ∃ rest, value (t.length + 1) depth (skip t) = .ok (v, rest) ∧ skip rest = [] := by
  unfold read
  rw [bind_eq_ok_iff]
  constructor
  · rintro ⟨⟨v', rest⟩, hv, hend⟩
    dsimp only at hend
    split at hend
    · next hempty =>
        rw [pure_eq_ok_iff] at hend
        subst hend
        exact ⟨rest, hv, List.isEmpty_iff.mp hempty⟩
    · simp at hend
  · rintro ⟨rest, hv, hend⟩
    refine ⟨(v, rest), hv, ?_⟩
    simp [hend, pure_eq_ok_iff]

/-! ## Texts of blanks -/

theorem digitIn?_of_isBlank {c : Char} (hc : Text.isBlank c = true) :
    Decimal.digitIn? 10 c = none := by
  have hrange := Text.toNat_of_isBlank hc
  have hdigit : ¬ (0x30 ≤ c.toNat ∧ c.toNat ≤ 0x39) := by omega
  have hlower : ¬ (0x61 ≤ c.toNat ∧ c.toNat ≤ 0x66) := by omega
  have hupper : ¬ (0x41 ≤ c.toNat ∧ c.toNat ≤ 0x46) := by omega
  unfold Decimal.digitIn?
  dsimp only
  rw [if_neg hdigit, if_neg hlower, if_neg hupper]
  rfl

/-- No value begins with a blank, of JSON or not. -/
theorem value_of_isBlank {c : Char} (hc : Text.isBlank c = true) (bound depth : Nat) (t : Text) :
    value bound depth (c :: t) = .error .malformed := by
  have hne : ∀ d, Text.isBlank d = false → some d ≠ some c := fun d hd h =>
    Text.ne_of_isBlank hc hd (Option.some.inj h)
  have hword : word? (c :: t) = none := by
    apply word?_eq_none _ _ words_ne_nil
    simp only [words, List.forall_mem_cons]
    exact ⟨hne 'n' (by decide), hne 't' (by decide), hne 'f' (by decide), hne 'N' (by decide),
      hne 'I' (by decide), hne '-' (by decide), by simp⟩
  have hstart : ∀ d rest, Text.isBlank d = false → c :: t = d :: rest → False := by
    intro d rest hd h
    exact Text.ne_of_isBlank hc hd (List.cons.inj h).1.symm
  have hnumber := number_of_not_digit (digitIn?_of_isBlank hc) false t
  unfold value
  rw [hword]
  split
  · next h => cases h
  · next h => exact (hstart '"' _ (by decide) h).elim
  · next h => exact (hstart '[' _ (by decide) h).elim
  · next h => exact (hstart '\x7b' _ (by decide) h).elim
  · next h => exact (hstart '[' _ (by decide) h).elim
  · next h => exact (hstart '\x7b' _ (by decide) h).elim
  · next h => exact (hstart '-' _ (by decide) h).elim
  · exact hnumber

theorem value_nil (bound depth : Nat) : value bound depth [] = .error .malformed := by
  unfold value
  rfl

theorem read_of_forall_isBlank {t : Text} (h : ∀ c ∈ t, Text.isBlank c = true) (depth : Nat) :
    read t depth = .error .malformed := by
  unfold read
  cases hskip : skip t with
  | nil =>
      rw [value_nil]
      rfl
  | cons c rest =>
      have hmem : c ∈ skip t := by simp [hskip]
      have hc := h c ((List.dropWhile_sublist isBlank).subset hmem)
      rw [value_of_isBlank hc]
      rfl

end LintReport.Json
