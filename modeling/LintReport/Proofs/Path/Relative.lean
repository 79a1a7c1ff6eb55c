import LintReport.Proofs.Path.Normal

/-!
# Relative paths

The path from a directory to a file leads up to where the two part and from there down. It depends
on the names on the way from the root to the file and on nothing else. Whoever follows it from the
directory comes to the file again, so that, seen from one directory, different files have different
relative paths.
-/

namespace LintReport.Path

/-! ## Names -/

theorem filter_names {parts : List Text} (h : ∀ name ∈ parts, IsName name) :
    parts.filter (fun part => !part.isEmpty) = parts := by
  refine List.filter_eq_self.mpr fun name hname => ?_
  simpa using (h name hname).ne_nil

theorem names_join {parts : List Text} (h : ∀ name ∈ parts, IsName name) :
    names (Text.join ['/'] parts) = parts := by
  by_cases hne : parts = []
  · subst hne
    rfl
  · rw [names, Text.split_join hne fun name hname => (h name hname).slash_not_mem, filter_names h]

theorem names_cons_slash (t : Text) : names ('/' :: t) = names t := rfl

theorem names_rooted {slashes : Nat} {parts : List Text} (hslashes : slashes = 1 ∨ slashes = 2)
    (h : ∀ name ∈ parts, IsName name) : names (rooted slashes parts) = parts := by
  rcases hslashes with rfl | rfl
  · exact (names_cons_slash _).trans (names_join h)
  · exact (names_cons_slash _).trans ((names_cons_slash _).trans (names_join h))

theorem names_normalize {p : Text} (h : isAbsolute p = true) : names (normalize p) = resolved p := by
  rw [normalize_eq_rooted h]
  exact names_rooted (rootSlashes_eq_or h) fun _ => isName_of_mem_resolved

theorem names_absolute {dir : Text} (hdir : isAbsolute dir = true) (p : Text) :
    names (absolute dir p) = resolved (join dir p) := by
  rw [absolute_eq_normalize_join, names_normalize (isAbsolute_join hdir p)]

theorem isName_of_mem_names_absolute {dir p name : Text} (hdir : isAbsolute dir = true)
    (h : name ∈ names (absolute dir p)) : IsName name := by
  rw [names_absolute hdir] at h
  exact isName_of_mem_resolved h

theorem rooted_eq_iff {a b : Nat} {parts : List Text} : rooted a parts = rooted b parts ↔ a = b := by
  rw [rooted, rooted, List.append_cancel_right_eq, List.replicate_left_inj]

/-- A normal path is known by its slashes and its names. -/
theorem IsNormal.eq_rooted {p : Text} (h : IsNormal p) : p = rooted (rootSlashes p) (names p) := by
  have hnames := names_normalize h.isAbsolute
  have hrooted := normalize_eq_rooted h.isAbsolute
  rw [h.normalize] at hnames hrooted
  rw [hnames]
  exact hrooted

/-- The path of a file, as it stands in a report: normal, with one slash at its beginning. -/
structure IsFilePath (p : Text) : Prop extends IsNormal p where
  oneSlash : rootSlashes p = 1

/-- Such a path is known by its names. -/
theorem IsFilePath.eq_rooted {p : Text} (h : IsFilePath p) : p = rooted 1 (names p) := by
  rw [← h.oneSlash]
  exact h.toIsNormal.eq_rooted

/-! ## Ways -/

/-- The parts of the path from one place to another: a step up for each name that the places do not
share, and then the names that are left of the other. -/
def way (start target : List Text) : List Text :=
  List.replicate (dropCommon start target).1.length up ++ (dropCommon start target).2

theorem exists_common (start target : List Text) :
    ∃ common, start = common ++ (dropCommon start target).1 ∧
      target = common ++ (dropCommon start target).2 := by
  fun_induction dropCommon start target with
  | case1 as b bs ih =>
      obtain ⟨common, hstart, htarget⟩ := ih
      exact ⟨b :: common, congrArg (b :: ·) hstart, congrArg (b :: ·) htarget⟩
  | case2 a as b bs hne => exact ⟨[], rfl, rfl⟩
  | case3 as bs hcases => exact ⟨[], rfl, rfl⟩

theorem dropCommon_append_self (start rest : List Text) :
    dropCommon start (start ++ rest) = ([], rest) := by
  induction start with
  | nil => cases rest <;> rfl
  | cons name start ih => rw [List.cons_append, dropCommon, if_pos rfl, ih]

/-- From a directory the way goes straight down to what lies below it. -/
theorem way_append_self (start rest : List Text) : way start (start ++ rest) = rest := by
  rw [way, dropCommon_append_self]
  rfl

/-- A way ends in all names below a directory, unless it starts at the first of them or further
down. -/
theorem way_append_of_not_prefix {start above rest : List Text} {name : Text}
    (h : ¬ above ++ [name] <+: start) :
    ∃ before, way start (above ++ name :: rest) = before ++ name :: rest := by
  obtain ⟨common, hstart, htarget⟩ := exists_common start (above ++ name :: rest)
  rcases List.append_eq_append_iff.mp htarget with ⟨more, hcommon, hrest⟩ | ⟨more, habove, hrest⟩
  · cases more with
    | nil =>
        rw [List.nil_append] at hrest
        exact ⟨_, by rw [way, ← hrest]⟩
    | cons first more =>
        obtain ⟨rfl, -⟩ := List.cons.inj hrest
        refine absurd ?_ h
        rw [hstart, hcommon]
        exact ⟨more ++ (dropCommon start (above ++ name :: rest)).1, by simp⟩
  · exact ⟨_, by rw [way, hrest, ← List.append_assoc]⟩

/-- The text of a way. A way without parts leads nowhere else. -/
def wayText : List Text → Text
  | [] => here
  | parts => Text.join ['/'] parts

theorem wayText_of_ne_nil {parts : List Text} (h : parts ≠ []) :
    wayText parts = Text.join ['/'] parts := by
  cases parts with
  | nil => exact absurd rfl h
  | cons part parts => rfl

/-- The parts of a way are not empty, and there are no slashes in them. -/
theorem mem_way {start target : List Text} (h : ∀ name ∈ target, IsName name) {part : Text}
    (hpart : part ∈ way start target) : part ≠ [] ∧ '/' ∉ part := by
  obtain ⟨common, -, hcommon⟩ := exists_common start target
  rcases List.mem_append.mp hpart with hup | hrest
  · rw [List.eq_of_mem_replicate hup]
    decide
  · have hname := h part (hcommon ▸ List.mem_append_right common hrest)
    exact ⟨hname.ne_nil, hname.slash_not_mem⟩

section WayText

variable {parts : List Text} (h : ∀ part ∈ parts, part ≠ [] ∧ '/' ∉ part)

include h

theorem split_wayText : Text.split '/' (wayText parts) = if parts = [] then [here] else parts := by
  cases parts with
  | nil => rfl
  | cons part parts =>
      rw [if_neg (List.cons_ne_nil part parts)]
      exact Text.split_join (List.cons_ne_nil part parts) fun p hp => (h p hp).2

theorem isAbsolute_wayText : isAbsolute (wayText parts) = false := by
  cases parts with
  | nil => rfl
  | cons part parts => exact isAbsolute_join_parts h

end WayText

/-! ## Following a way -/

/-- Each step up leads out of one name. -/
theorem foldl_step_up {kept : List Text} (h : ∀ name ∈ kept, IsName name) (n : Nat) :
    (List.replicate n up).foldl (step true) kept = kept.drop n := by
  induction n generalizing kept with
  | zero => rfl
  | succ n ih =>
      rw [List.replicate_succ, List.foldl_cons]
      cases kept with
      | nil =>
          have hstep : step true [] up = [] := rfl
          rw [hstep, ih h, List.drop_nil, List.drop_nil]
      | cons last above =>
          obtain ⟨hlast, habove⟩ := List.forall_mem_cons.mp h
          have hstep : step true (last :: above) up = above := if_neg hlast.ne_up
          rw [hstep, ih habove, List.drop_succ_cons]

/-- The way from one place to another leads to the other. -/
theorem resolveParts_way {start target : List Text} (hstart : ∀ name ∈ start, IsName name)
    (htarget : ∀ name ∈ target, IsName name) :
    resolveParts true start.reverse (way start target) = target := by
  obtain ⟨common, hbefore, hafter⟩ := exists_common start target
  have hrest : ∀ name ∈ (dropCommon start target).2, IsName name := fun name hname =>
    htarget name (hafter ▸ List.mem_append_right common hname)
  have hreverse := congrArg List.reverse hbefore
  rw [List.reverse_append] at hreverse
  have hdrop : start.reverse.drop (dropCommon start target).1.length = common.reverse := by
    rw [hreverse]
    exact List.drop_left' List.length_reverse
  calc resolveParts true start.reverse (way start target)
      = resolveParts true common.reverse (dropCommon start target).2 := by
        rw [resolveParts_eq_foldl, way, List.foldl_append,
          foldl_step_up (fun name hname => hstart name (List.mem_reverse.mp hname)), hdrop,
          ← resolveParts_eq_foldl]
    _ = common ++ (dropCommon start target).2 := by
        rw [resolveParts_names hrest, List.reverse_reverse]
    _ = target := hafter.symm

/-- The text of a way, taken against a directory, leads to its end below the root of the
directory. -/
theorem normalize_join_wayText {dir : Text} {target : List Text} (hdir : isAbsolute dir = true)
    (htarget : ∀ name ∈ target, IsName name) :
    normalize (join dir (wayText (way (resolved dir) target))) =
      rooted (rootSlashes dir) target := by
  have hnames : ∀ name ∈ resolved dir, IsName name := fun _ => isName_of_mem_resolved
  have hrelative : isAbsolute (wayText (way (resolved dir) target)) = false :=
    isAbsolute_wayText fun _ => mem_way htarget
  rw [normalize_join_of_relative hdir hrelative, split_wayText fun _ => mem_way htarget]
  split
  · next hnil =>
      have hway := resolveParts_way hnames htarget
      rw [hnil] at hway
      exact congrArg (rooted (rootSlashes dir)) hway
  · rw [resolveParts_way hnames htarget]

/-! ## Paths -/

section Relative

variable {workingDirectory start p q : Text}

theorem relative?_eq (hp : p ≠ []) :
    relative? workingDirectory p start =
      some (wayText (way (names (absolute workingDirectory start))
        (names (absolute workingDirectory p)))) := by
  unfold relative? way
  rw [if_neg hp]
  dsimp only
  split
  · next hnil => rw [hnil]; rfl
  · next parts hparts => rw [wayText_of_ne_nil hparts]

/-- From the directory, the relative path leads where the path leads, but below the root of the
directory. -/
theorem absolute_join_relative {shown : Text} (hdirectory : isAbsolute workingDirectory = true)
    (hway : relative? workingDirectory p start = some shown) :
    absolute workingDirectory (join (absolute workingDirectory start) shown) =
      rooted (rootSlashes (absolute workingDirectory start))
        (names (absolute workingDirectory p)) := by
  have hp : p ≠ [] := by
    rintro rfl
    cases hway
  have hdir := isNormal_absolute hdirectory start
  have hstart : names (absolute workingDirectory start) =
      resolved (absolute workingDirectory start) := by
    rw [← names_normalize hdir.isAbsolute, hdir.normalize]
  have htarget : ∀ name ∈ names (absolute workingDirectory p), IsName name :=
    fun _ => isName_of_mem_names_absolute hdirectory
  rw [relative?_eq hp, hstart] at hway
  rw [← Option.some.inj hway, absolute_eq_normalize_join,
    join_of_isAbsolute (isAbsolute_join hdir.isAbsolute _),
    normalize_join_wayText hdir.isAbsolute htarget]

/-- So it leads back to the path if and only if both have the same root. -/
theorem absolute_join_relative_eq_iff {shown : Text}
    (hdirectory : isAbsolute workingDirectory = true)
    (hway : relative? workingDirectory p start = some shown) :
    absolute workingDirectory (join (absolute workingDirectory start) shown) =
        absolute workingDirectory p ↔
      (['/', '/'] <+: absolute workingDirectory start ↔
        ['/', '/'] <+: absolute workingDirectory p) := by
  have hstart := isNormal_absolute hdirectory start
  have hp := isNormal_absolute hdirectory p
  have hroot : rooted (rootSlashes (absolute workingDirectory start))
      (names (absolute workingDirectory p)) = absolute workingDirectory p ↔
        rootSlashes (absolute workingDirectory start) =
          rootSlashes (absolute workingDirectory p) := by
    constructor
    · exact fun h => rooted_eq_iff.mp (h.trans hp.eq_rooted)
    · intro h
      rw [h]
      exact hp.eq_rooted.symm
  rw [absolute_join_relative hdirectory hway, hroot, hstart.rootSlashes_eq, hp.rootSlashes_eq]
  by_cases hdouble : ['/', '/'] <+: absolute workingDirectory start <;>
    by_cases hdouble' : ['/', '/'] <+: absolute workingDirectory p <;>
      simp [hdouble, hdouble']

/-- Two paths are the same relative to a directory if and only if they have the same names on the
way from the root. -/
theorem relative?_eq_iff (hdirectory : isAbsolute workingDirectory = true) (hp : p ≠ [])
    (hq : q ≠ []) :
    relative? workingDirectory p start = relative? workingDirectory q start ↔
      names (absolute workingDirectory p) = names (absolute workingDirectory q) := by
  constructor
  · intro h
    have hway : relative? workingDirectory p start = some _ := relative?_eq hp
    -- the one way leads to both places
    have hplace := absolute_join_relative hdirectory hway
    have hplace' := absolute_join_relative hdirectory (h.symm.trans hway)
    have hroot := rootSlashes_eq_or (isNormal_absolute hdirectory start).isAbsolute
    have hnames := congrArg names (hplace.symm.trans hplace')
    rwa [names_rooted hroot fun _ => isName_of_mem_names_absolute hdirectory,
      names_rooted hroot fun _ => isName_of_mem_names_absolute hdirectory] at hnames
  · intro h
    rw [relative?_eq hp, relative?_eq hq, h]

end Relative

/-! ## Paths that stay where they are -/

theorem mem_up_step {kept : List Text} (h : up ∈ kept) (part : Text) :
    up ∈ step false kept part := by
  unfold step
  split
  · exact h
  · split
    · cases kept with
      | nil => cases h
      | cons last above =>
          dsimp only
          split
          · exact List.mem_cons_self
          · next hlast => exact (List.mem_cons.mp h).resolve_left (Ne.symm hlast)
    · exact List.mem_cons_of_mem part h

theorem mem_up_foldl {kept : List Text} (h : up ∈ kept) (parts : List Text) :
    up ∈ parts.foldl (step false) kept := by
  induction parts generalizing kept with
  | nil => exact h
  | cons part rest ih => exact ih (mem_up_step h part)

theorem step_append {kept : List Text} {part : Text} (h : up ∉ step false kept part)
    (above : List Text) : step true (kept ++ above) part = step false kept part ++ above := by
  unfold step at h ⊢
  split
  · rfl
  · split
    · next hskip hup =>
        rw [if_neg hskip, if_pos hup] at h
        cases kept with
        | nil => exact absurd List.mem_cons_self h
        | cons last kept =>
            dsimp only [List.cons_append] at h ⊢
            split
            · next hlast =>
                rw [if_pos hlast] at h
                exact absurd List.mem_cons_self h
            · rfl
    · rfl

theorem foldl_step_append {kept parts : List Text} (h : up ∉ parts.foldl (step false) kept)
    (above : List Text) :
    parts.foldl (step true) (kept ++ above) = parts.foldl (step false) kept ++ above := by
  induction parts generalizing kept with
  | nil => rfl
  | cons part rest ih =>
      have hpart : up ∉ step false kept part := fun hup => h (mem_up_foldl hup rest)
      rw [List.foldl_cons, List.foldl_cons, step_append hpart, ih h]

/-- Parts that do not lead out of where they start are resolved there, whatever lies above. -/
theorem resolveParts_of_not_mem_up {parts : List Text} (h : up ∉ resolveParts false [] parts)
    (kept : List Text) :
    resolveParts true kept parts = kept.reverse ++ resolveParts false [] parts := by
  simp only [resolveParts_eq_foldl, List.mem_reverse] at h ⊢
  rw [← List.nil_append kept, foldl_step_append h, List.nil_append, List.reverse_append]

end LintReport.Path
