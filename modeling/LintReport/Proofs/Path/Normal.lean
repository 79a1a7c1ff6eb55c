import LintReport.Path
import LintReport.Proofs.Text.Split
import LintReport.Proofs.Text.Trim
import Mathlib.Data.List.Basic

/-!
# Normalised absolute paths

An absolute path is as good as the slashes at its beginning and its parts with all dots resolved.
What is joined to it adds parts at the end, so that it makes no difference whether a directory is
normalised before a path is taken against it or only afterwards.
-/

namespace LintReport.Path

/-- A part that names something below a directory. -/
structure IsName (part : Text) : Prop where
  ne_nil : part ≠ []
  ne_here : part ≠ here
  ne_up : part ≠ up
  slash_not_mem : '/' ∉ part

theorem isAbsolute_cons (c : Char) (t : Text) : isAbsolute (c :: t) = decide (c = '/') := by
  unfold isAbsolute
  split
  · next heq => simp [(List.cons.inj heq).1]
  · next hne =>
      have hc : c ≠ '/' := fun h => hne t (by rw [h])
      simp [hc]

theorem isAbsolute_of_not_mem {p : Text} (h : '/' ∉ p) : isAbsolute p = false := by
  cases p with
  | nil => rfl
  | cons c p =>
      rw [isAbsolute_cons]
      exact decide_eq_false fun hc => h (by simp [hc])

/-! ## Parts -/

/-- What one part makes of the parts before it, which come last part first. -/
def step (rooted : Bool) (kept : List Text) (part : Text) : List Text :=
  if part = [] ∨ part = here then kept
  else if part = up then
    match kept with
    | [] => if rooted then [] else [up]
    | last :: above => if last = up then up :: last :: above else above
  else part :: kept

section Parts

variable {rooted : Bool} {kept : List Text}

theorem resolveParts_eq_foldl (parts : List Text) :
    resolveParts rooted kept parts = (parts.foldl (step rooted) kept).reverse := by
  induction parts generalizing kept with
  | nil => simp [resolveParts]
  | cons part rest ih =>
      rw [List.foldl_cons, ← ih, resolveParts.eq_def, step.eq_def]
      dsimp only
      split
      · rfl
      · split
        · cases kept with
          | nil => rfl
          | cons last above =>
              dsimp only
              split <;> rfl
        · rfl

theorem resolveParts_append (a b : List Text) :
    resolveParts rooted kept (a ++ b) =
      resolveParts rooted (resolveParts rooted kept a).reverse b := by
  simp only [resolveParts_eq_foldl, List.foldl_append, List.reverse_reverse]

theorem resolveParts_nil_cons (rest : List Text) :
    resolveParts rooted kept ([] :: rest) = resolveParts rooted kept rest := by
  simp [resolveParts_eq_foldl, step]

theorem step_name {name : Text} (h : IsName name) : step rooted kept name = name :: kept := by
  simp [step, h.ne_nil, h.ne_here, h.ne_up]

theorem resolveParts_names {names : List Text} (h : ∀ name ∈ names, IsName name) :
    resolveParts rooted kept names = kept.reverse ++ names := by
  rw [resolveParts_eq_foldl]
  induction names generalizing kept with
  | nil => simp
  | cons name names ih =>
      obtain ⟨hname, hnames⟩ := List.forall_mem_cons.mp h
      rw [List.foldl_cons, step_name hname, ih hnames]
      simp

/-- Below the root a part adds a name or takes one away. -/
theorem isName_of_mem_step {part : Text} (hkept : ∀ name ∈ kept, IsName name)
    (hpart : '/' ∉ part) : ∀ name ∈ step true kept part, IsName name := by
  unfold step
  split
  · exact hkept
  · next hskip =>
      split
      · cases kept with
        | nil => simp
        | cons last above =>
            obtain ⟨hlast, habove⟩ := List.forall_mem_cons.mp hkept
            dsimp only
            rw [if_neg hlast.ne_up]
            exact habove
      · next hup =>
          have hname : IsName part := ⟨(hskip <| Or.inl ·), (hskip <| Or.inr ·), hup, hpart⟩
          exact List.forall_mem_cons.mpr ⟨hname, hkept⟩

theorem isName_of_mem_resolveParts {parts : List Text} (hkept : ∀ name ∈ kept, IsName name)
    (hparts : ∀ part ∈ parts, '/' ∉ part) :
    ∀ name ∈ resolveParts true kept parts, IsName name := by
  rw [resolveParts_eq_foldl]
  induction parts generalizing kept with
  | nil => simpa using hkept
  | cons part rest ih =>
      obtain ⟨hpart, hrest⟩ := List.forall_mem_cons.mp hparts
      exact ih (isName_of_mem_step hkept hpart) hrest

end Parts

/-- The parts of an absolute path that remain when all dots are resolved. -/
def resolved (p : Text) : List Text :=
  resolveParts true [] (Text.split '/' p)

theorem isName_of_mem_resolved {p name : Text} (h : name ∈ resolved p) : IsName name :=
  isName_of_mem_resolveParts (by simp) (fun _ => Text.not_mem_of_mem_split) name h

/-! ## Normal forms -/

theorem rootSlashes_one {t : Text} (h : isAbsolute t = false) : rootSlashes ('/' :: t) = 1 := by
  cases t with
  | nil => rfl
  | cons c t =>
      have hc : c ≠ '/' := by simpa [isAbsolute_cons] using h
      simp [rootSlashes, hc]

theorem rootSlashes_two {t : Text} (h : isAbsolute t = false) :
    rootSlashes ('/' :: '/' :: t) = 2 := by
  cases t with
  | nil => rfl
  | cons c t =>
      have hc : c ≠ '/' := by simpa [isAbsolute_cons] using h
      simp [rootSlashes, hc]

/-- An absolute path begins with one slash, with two, or with more than two. -/
theorem exists_of_isAbsolute {p : Text} (h : isAbsolute p = true) :
    (∃ t, p = '/' :: t ∧ isAbsolute t = false) ∨
      (∃ t, p = '/' :: '/' :: t ∧ isAbsolute t = false) ∨ ∃ t, p = '/' :: '/' :: '/' :: t := by
  have hcons {q : Text} (hq : isAbsolute q = true) : ∃ t, q = '/' :: t := by
    unfold isAbsolute at hq
    split at hq
    · exact ⟨_, rfl⟩
    · cases hq
  obtain ⟨t, rfl⟩ := hcons h
  cases ht : isAbsolute t with
  | false => exact Or.inl ⟨t, rfl, ht⟩
  | true =>
      obtain ⟨t, rfl⟩ := hcons ht
      cases ht : isAbsolute t with
      | false => exact Or.inr (Or.inl ⟨t, rfl, ht⟩)
      | true =>
          obtain ⟨t, rfl⟩ := hcons ht
          exact Or.inr (Or.inr ⟨t, rfl⟩)

theorem rootSlashes_eq_or {p : Text} (h : isAbsolute p = true) :
    rootSlashes p = 1 ∨ rootSlashes p = 2 := by
  rcases exists_of_isAbsolute h with ⟨t, rfl, ht⟩ | ⟨t, rfl, ht⟩ | ⟨t, rfl⟩
  · exact Or.inl (rootSlashes_one ht)
  · exact Or.inr (rootSlashes_two ht)
  · exact Or.inl rfl

/-- The path with the slashes and the parts of an absolute path. -/
def rooted (slashes : Nat) (parts : List Text) : Text :=
  List.replicate slashes '/' ++ Text.join ['/'] parts

theorem normalize_eq_rooted {p : Text} (h : isAbsolute p = true) :
    normalize p = rooted (rootSlashes p) (resolved p) := by
  have hpos : 0 < rootSlashes p := by
    rcases rootSlashes_eq_or h with h | h <;> omega
  have hne : rooted (rootSlashes p) (resolved p) ≠ [] := by
    obtain ⟨n, hn⟩ := Nat.exists_eq_succ_of_ne_zero (Nat.pos_iff_ne_zero.mp hpos)
    rw [rooted, hn]
    simp [List.replicate_succ]
  unfold normalize
  dsimp only
  rw [decide_eq_true hpos]
  exact if_neg hne

/-! ## Joining -/

def asDirectory (p : Text) : Text :=
  if p = [] ∨ p.getLast? = some '/' then p else p ++ ['/']

theorem join_of_isAbsolute {dir p : Text} (h : isAbsolute p = true) : join dir p = p := by
  rw [join, if_pos h]

theorem join_of_relative {dir p : Text} (h : isAbsolute p = false) :
    join dir p = asDirectory dir ++ p := by
  rw [join, h, if_neg Bool.false_ne_true, asDirectory]
  split
  · rfl
  · rw [List.append_assoc, List.singleton_append]

theorem asDirectory_append (a b : Text) :
    asDirectory (asDirectory a ++ b) = asDirectory a ++ asDirectory b := by
  cases hb : b.getLast? with
  | none =>
      rw [List.getLast?_eq_none_iff.mp hb, List.append_nil]
      unfold asDirectory
      split <;> simp_all
  | some last =>
      obtain ⟨init, rfl⟩ := List.getLast?_eq_some_iff.mp hb
      have hlast : (asDirectory a ++ (init ++ [last])).getLast? = some last := by
        rw [← List.append_assoc, List.getLast?_concat]
      rw [asDirectory, hlast, asDirectory.eq_def (init ++ [last]), hb]
      simp only [List.append_eq_nil_iff, List.cons_ne_nil, and_false, false_or]
      split <;> simp

theorem isAbsolute_asDirectory_append {a p : Text} (hp : isAbsolute p = false) :
    isAbsolute (asDirectory a ++ p) = isAbsolute a := by
  cases a with
  | nil => exact hp
  | cons c a =>
      unfold asDirectory
      split <;> simp only [List.cons_append, isAbsolute_cons]

theorem join_assoc (a b p : Text) : join a (join b p) = join (join a b) p := by
  -- the last absolute path among the three decides; all before it is dropped on both sides
  cases hp : isAbsolute p with
  | true => rw [join_of_isAbsolute hp, join_of_isAbsolute hp, join_of_isAbsolute hp]
  | false =>
      have hjoin := isAbsolute_asDirectory_append (a := b) hp
      rw [join_of_relative hp, join_of_relative hp]
      cases hb : isAbsolute b with
      | true => rw [join_of_isAbsolute (hjoin.trans hb), join_of_isAbsolute hb]
      | false =>
          rw [join_of_relative (hjoin.trans hb), join_of_relative hb, asDirectory_append,
            List.append_assoc]

theorem absolute_eq_normalize_join (dir p : Text) : absolute dir p = normalize (join dir p) := by
  unfold absolute
  split
  · next hp => rw [join_of_isAbsolute hp]
  · rfl

theorem isAbsolute_join {dir : Text} (h : isAbsolute dir = true) (p : Text) :
    isAbsolute (join dir p) = true := by
  cases hp : isAbsolute p with
  | true => rwa [join_of_isAbsolute hp]
  | false => rwa [join_of_relative hp, isAbsolute_asDirectory_append hp]

/-- The slashes at the beginning of a directory are those of every path below it. -/
theorem rootSlashes_asDirectory_append {dir p : Text} (hdir : isAbsolute dir = true)
    (hp : isAbsolute p = false) : rootSlashes (asDirectory dir ++ p) = rootSlashes dir := by
  have hcons (t : Text) : asDirectory ('/' :: t) = '/' :: asDirectory t :=
    asDirectory_append ['/'] t
  rcases exists_of_isAbsolute hdir with ⟨t, rfl, ht⟩ | ⟨t, rfl, ht⟩ | ⟨t, rfl⟩
  · rw [hcons, rootSlashes_one ht, List.cons_append,
      rootSlashes_one ((isAbsolute_asDirectory_append hp).trans ht)]
  · rw [hcons, hcons, rootSlashes_two ht, List.cons_append, List.cons_append,
      rootSlashes_two ((isAbsolute_asDirectory_append hp).trans ht)]
  · rw [hcons, hcons, hcons]
    rfl

theorem resolved_asDirectory_append {dir : Text} (hdir : dir ≠ []) (p : Text) :
    resolved (asDirectory dir ++ p) =
      resolveParts true (resolved dir).reverse (Text.split '/' p) := by
  -- a slash that the directory ends in already adds an empty part, which resolving passes over
  have hslash : ∃ init, asDirectory dir = init ++ ['/'] ∧ resolved init = resolved dir := by
    unfold asDirectory
    split
    · next h =>
        obtain ⟨init, rfl⟩ := List.getLast?_eq_some_iff.mp (h.resolve_left hdir)
        refine ⟨init, rfl, ?_⟩
        rw [resolved, resolved, Text.split_append_separator, resolveParts_append, Text.split,
          resolveParts_nil_cons]
        simp [resolveParts]
    · exact ⟨dir, rfl, rfl⟩
  obtain ⟨init, hinit, hresolved⟩ := hslash
  rw [hinit, List.append_assoc, List.singleton_append, resolved, Text.split_append_separator,
    resolveParts_append, ← hresolved, resolved]

/-! ## Directories that are normalised -/

theorem isAbsolute_join_parts {parts : List Text}
    (h : ∀ part ∈ parts, part ≠ [] ∧ '/' ∉ part) : isAbsolute (Text.join ['/'] parts) = false := by
  cases parts with
  | nil => rfl
  | cons part parts =>
      obtain ⟨⟨hne, hslash⟩, -⟩ := List.forall_mem_cons.mp h
      obtain ⟨rest, hrest⟩ := Text.exists_join_cons ['/'] part parts
      obtain ⟨c, part, rfl⟩ := List.exists_cons_of_ne_nil hne
      have hc : c ≠ '/' := fun heq => hslash (by simp [heq])
      rw [hrest, List.cons_append, isAbsolute_cons]
      exact decide_eq_false hc

theorem isAbsolute_join_names {names : List Text} (h : ∀ name ∈ names, IsName name) :
    isAbsolute (Text.join ['/'] names) = false :=
  isAbsolute_join_parts fun name hname => ⟨(h name hname).ne_nil, (h name hname).slash_not_mem⟩

section Rooted

variable {slashes : Nat} {names : List Text} (hslashes : slashes = 1 ∨ slashes = 2)
  (hnames : ∀ name ∈ names, IsName name)

include hslashes

theorem isAbsolute_rooted : isAbsolute (rooted slashes names) = true := by
  rcases hslashes with rfl | rfl <;> rfl

include hnames

theorem rootSlashes_rooted : rootSlashes (rooted slashes names) = slashes := by
  have hjoin := isAbsolute_join_names hnames
  rcases hslashes with rfl | rfl
  · exact rootSlashes_one hjoin
  · exact rootSlashes_two hjoin

theorem resolved_rooted : resolved (rooted slashes names) = names := by
  have hsplit : resolved (rooted slashes names) =
      resolveParts true [] (Text.split '/' (Text.join ['/'] names)) := by
    rcases hslashes with rfl | rfl
    · exact resolveParts_nil_cons _
    · exact (resolveParts_nil_cons _).trans (resolveParts_nil_cons _)
  rw [hsplit]
  -- joining no names gives the empty path, which has one part and not none
  by_cases hne : names = []
  · subst hne
    exact resolveParts_nil_cons []
  · rw [Text.split_join hne fun name hname => (hnames name hname).slash_not_mem,
      resolveParts_names hnames, List.reverse_nil, List.nil_append]

end Rooted

section Directory

variable {dir : Text} (hdir : isAbsolute dir = true)

include hdir

theorem isAbsolute_normalize : isAbsolute (normalize dir) = true := by
  rw [normalize_eq_rooted hdir]
  exact isAbsolute_rooted (rootSlashes_eq_or hdir)

theorem normalize_join_of_relative {p : Text} (hp : isAbsolute p = false) :
    normalize (join dir p) =
      rooted (rootSlashes dir) (resolveParts true (resolved dir).reverse (Text.split '/' p)) := by
  have hne : dir ≠ [] := by
    rintro rfl
    cases hdir
  rw [normalize_eq_rooted (isAbsolute_join hdir p), join_of_relative hp,
    rootSlashes_asDirectory_append hdir hp, resolved_asDirectory_append hne]

theorem normalize_normalize : normalize (normalize dir) = normalize dir := by
  have hslashes := rootSlashes_eq_or hdir
  have hnames : ∀ name ∈ resolved dir, IsName name := fun _ => isName_of_mem_resolved
  rw [normalize_eq_rooted (isAbsolute_normalize hdir), normalize_eq_rooted hdir,
    rootSlashes_rooted hslashes hnames, resolved_rooted hslashes hnames]

/-- It makes no difference whether the directory that a path is taken against is normalised. -/
theorem normalize_join_normalize (p : Text) :
    normalize (join (normalize dir) p) = normalize (join dir p) := by
  cases hp : isAbsolute p with
  | true => rw [join_of_isAbsolute hp, join_of_isAbsolute hp]
  | false =>
      have hslashes := rootSlashes_eq_or hdir
      have hnames : ∀ name ∈ resolved dir, IsName name := fun _ => isName_of_mem_resolved
      rw [normalize_join_of_relative hdir hp,
        normalize_join_of_relative (isAbsolute_normalize hdir) hp, normalize_eq_rooted hdir,
        rootSlashes_rooted hslashes hnames, resolved_rooted hslashes hnames]

theorem normalize_join_name {name : Text} (hname : IsName name) :
    normalize (join dir name) = rooted (rootSlashes dir) (resolved dir ++ [name]) := by
  rw [normalize_join_of_relative hdir (isAbsolute_of_not_mem hname.slash_not_mem),
    Text.split_of_not_mem hname.slash_not_mem, resolveParts_names (by simpa using hname),
    List.reverse_reverse]

end Directory

/-! ## Normal paths -/

/-- A path that is absolute and normalised. -/
structure IsNormal (p : Text) : Prop where
  isAbsolute : isAbsolute p = true
  normalize : normalize p = p

theorem IsNormal.ne_nil {p : Text} (h : IsNormal p) : p ≠ [] := by
  rintro rfl
  cases h.isAbsolute

theorem IsNormal.absolute_eq {p : Text} (h : IsNormal p) (dir : Text) : absolute dir p = p := by
  rw [absolute_eq_normalize_join, join_of_isAbsolute h.isAbsolute, h.normalize]

/-- A normal path has two slashes at its beginning or one. -/
theorem IsNormal.rootSlashes_eq {p : Text} (h : IsNormal p) :
    rootSlashes p = if ['/', '/'] <+: p then 2 else 1 := by
  rcases exists_of_isAbsolute h.isAbsolute with ⟨t, rfl, ht⟩ | ⟨t, rfl, ht⟩ | ⟨t, rfl⟩
  · have hone : ¬ ['/', '/'] <+: '/' :: t := by
      rintro ⟨rest, heq⟩
      rw [← (List.cons.inj heq).2] at ht
      cases ht
    rw [rootSlashes_one ht, if_neg hone]
  · rw [rootSlashes_two ht, if_pos ⟨t, rfl⟩]
  · -- three slashes are not normal, since one stands for all of them
    have hnormal := h.normalize
    rw [normalize_eq_rooted h.isAbsolute] at hnormal
    have htail : Text.join ['/'] (resolved ('/' :: '/' :: '/' :: t)) = '/' :: '/' :: t :=
      (List.cons.inj hnormal).2
    have hjoin := isAbsolute_join_names fun _ => isName_of_mem_resolved (p := '/' :: '/' :: '/' :: t)
    rw [htail] at hjoin
    cases hjoin

/-- What a path leads to has a normal path. -/
theorem isNormal_absolute {dir : Text} (hdir : Path.isAbsolute dir = true) (p : Text) :
    IsNormal (absolute dir p) := by
  have hjoin := isAbsolute_join hdir p
  rw [absolute_eq_normalize_join]
  exact ⟨isAbsolute_normalize hjoin, normalize_normalize hjoin⟩

/-! ## Parents -/

theorem parent_append {name : Text} (hname : '/' ∉ name) (p : Text) :
    parent (p ++ '/' :: name) =
      if p.all (· = '/') then p ++ ['/'] else Text.dropEndWhile (· = '/') p := by
  have htake : ((p ++ '/' :: name).reverse.dropWhile (· ≠ '/')).reverse = p ++ ['/'] := by
    have hreverse : (p ++ '/' :: name).reverse = name.reverse ++ '/' :: p.reverse := by simp
    rw [hreverse, List.dropWhile_append_of_pos]
    · simp
    · intro c hc
      exact decide_eq_true fun heq => hname (by simpa [heq] using hc)
  have hall : ((p ++ ['/']).all (· = '/')) = p.all (· = '/') := by simp
  have hdrop : Text.dropEndWhile (· = '/') (p ++ ['/']) = Text.dropEndWhile (· = '/') p := by
    rw [Text.dropEndWhile_append]
    exact if_pos rfl
  unfold parent
  dsimp only
  rw [htake, hall, hdrop]

theorem rooted_concat {names : List Text} (hne : names ≠ []) (slashes : Nat) (name : Text) :
    rooted slashes (names ++ [name]) = rooted slashes names ++ '/' :: name := by
  simp only [rooted, Text.join_concat hne, List.append_assoc, List.singleton_append]

/-- A path with parts ends in no slash. -/
theorem exists_getLast?_rooted {names : List Text} (hne : names ≠ [])
    (hnames : ∀ name ∈ names, IsName name) (slashes : Nat) :
    ∃ c, (rooted slashes names).getLast? = some c ∧ c ≠ '/' := by
  obtain ⟨init, last, rfl⟩ := List.eq_nil_or_concat' names |>.resolve_left hne
  have hlast : IsName last := hnames last (by simp)
  have happend : ∃ front, rooted slashes (init ++ [last]) = front ++ last := by
    by_cases hinit : init = []
    · subst hinit
      exact ⟨_, rfl⟩
    · exact ⟨rooted slashes init ++ ['/'], by rw [rooted_concat hinit]; simp⟩
  obtain ⟨front, hfront⟩ := happend
  have hsome := List.getLast?_eq_some_getLast hlast.ne_nil
  refine ⟨last.getLast hlast.ne_nil, ?_, fun heq => hlast.slash_not_mem ?_⟩
  · rw [hfront, List.getLast?_append, hsome, Option.some_or]
  · rw [← heq]
    exact List.getLast_mem hlast.ne_nil

theorem parent_rooted {slashes : Nat} {names : List Text} {name : Text}
    (hslashes : slashes = 1 ∨ slashes = 2) (hnames : ∀ name ∈ names, IsName name)
    (hname : '/' ∉ name) : parent (rooted slashes (names ++ [name])) = rooted slashes names := by
  -- directly below the root the slashes are all of the parent and stay
  by_cases hne : names = []
  · subst hne
    rcases hslashes with rfl | rfl
    · exact parent_append hname []
    · exact parent_append hname ['/']
  · obtain ⟨c, hlast, hc⟩ := exists_getLast?_rooted hne hnames slashes
    have hall : ¬((rooted slashes names).all (· = '/') = true) := by
      intro hall
      exact hc (of_decide_eq_true (List.all_eq_true.mp hall c (List.mem_of_getLast? hlast)))
    rw [rooted_concat hne, parent_append hname, if_neg hall]
    apply Text.dropEndWhile_of_getLast?
    intro d hd
    rw [hlast] at hd
    rw [← Option.some.inj hd]
    exact decide_eq_false hc

/-- The directory of a file that is taken against a directory is that directory. -/
theorem parent_normalize_join {dir name : Text} (hdir : isAbsolute dir = true)
    (hname : IsName name) : parent (normalize (join dir name)) = normalize dir := by
  rw [normalize_join_name hdir hname, normalize_eq_rooted hdir]
  exact parent_rooted (rootSlashes_eq_or hdir) (fun _ => isName_of_mem_resolved)
    hname.slash_not_mem

end LintReport.Path
