import Mathlib.Data.Option.Basic

/-!
# Results and faults

When work in several steps succeeds, and when work on the elements of a list does. A list fails at
the first element that fails, with the fault of that element.
-/

namespace LintReport

variable {ε δ α β : Type}

theorem bind_eq_ok_iff {x : Except ε α} {f : α → Except ε β} {b : β} :
    (x >>= f) = .ok b ↔ ∃ a, x = .ok a ∧ f a = .ok b := by
  cases x with
  | error fault => simp [bind, Except.bind]
  | ok a => simp [bind, Except.bind]

theorem bind_eq_error_iff {x : Except ε α} {f : α → Except ε β} {fault : ε} :
    (x >>= f) = .error fault ↔ x = .error fault ∨ ∃ a, x = .ok a ∧ f a = .error fault := by
  cases x with
  | error fault => simp [bind, Except.bind]
  | ok a => simp [bind, Except.bind]

theorem pure_eq_ok_iff {a b : α} : (pure a : Except ε α) = .ok b ↔ a = b := by
  simp [pure, Except.pure]

theorem mapError_eq_ok_iff {x : Except ε α} {f : ε → δ} {a : α} :
    x.mapError f = .ok a ↔ x = .ok a := by
  cases x <;> simp [Except.mapError]

theorem mapError_eq_error_iff {x : Except ε α} {f : ε → δ} {fault : δ} :
    x.mapError f = .error fault ↔ ∃ e, x = .error e ∧ f e = fault := by
  cases x <;> simp [Except.mapError]

theorem exists_ok_iff {x : Except ε α} : (∃ a, x = .ok a) ↔ ¬ ∃ fault, x = .error fault := by
  cases x <;> simp

/-- Going through a list up to the first element that fails is `mapM`. -/
theorem eq_mapM_of_cons {f : α → Except ε β} {g : List α → Except ε (List β)}
    (hnil : g [] = .ok [])
    (hcons : ∀ x xs, g (x :: xs) =
      match f x with
      | .error fault => .error fault
      | .ok y => (g xs).map (y :: ·))
    (xs : List α) : g xs = xs.mapM f := by
  induction xs with
  | nil => exact hnil
  | cons x xs ih =>
      rw [hcons, ih, List.mapM_cons]
      cases f x with
      | error fault => rfl
      | ok y => cases xs.mapM f <;> rfl

theorem mapM_congr {f g : α → Except ε β} {xs : List α} (h : ∀ x ∈ xs, f x = g x) :
    xs.mapM f = xs.mapM g := by
  induction xs with
  | nil => rfl
  | cons x xs ih =>
      obtain ⟨hx, hxs⟩ := List.forall_mem_cons.mp h
      rw [List.mapM_cons, List.mapM_cons, hx, ih hxs]

/-- Work on the elements of a list succeeds if it succeeds for each of them. -/
theorem mapM_eq_ok_iff {f : α → Except ε β} {xs : List α} {ys : List β} :
    xs.mapM f = .ok ys ↔
      (∀ x ∈ xs, ∃ y, f x = .ok y) ∧ ys = xs.filterMap fun x => (f x).toOption := by
  induction xs generalizing ys with
  | nil =>
      rw [List.mapM_nil]
      constructor
      · intro h
        exact ⟨by simp, (Except.ok.inj h).symm⟩
      · rintro ⟨-, rfl⟩
        rfl
  | cons x xs ih =>
      rw [List.mapM_cons, List.forall_mem_cons]
      cases hx : f x with
      | error fault =>
          constructor
          · intro h
            cases h
          · rintro ⟨⟨⟨y, hy⟩, -⟩, -⟩
            cases hy
      | ok y =>
          have hhead : (x :: xs).filterMap (fun x => (f x).toOption) =
              y :: xs.filterMap fun x => (f x).toOption := by
            rw [List.filterMap_cons, hx]
            rfl
          rw [hhead]
          constructor
          · intro h
            cases hrest : xs.mapM f with
            | error fault =>
                rw [hrest] at h
                cases h
            | ok rest =>
                rw [hrest] at h
                obtain ⟨hall, rfl⟩ := ih.mp hrest
                exact ⟨⟨⟨y, rfl⟩, hall⟩, (Except.ok.inj h).symm⟩
          · rintro ⟨⟨-, hall⟩, rfl⟩
            rw [ih.mpr ⟨hall, rfl⟩]
            rfl

/-- Work on the elements of a list fails at the first of them for which it fails. -/
theorem mapM_eq_error_iff {f : α → Except ε β} {xs : List α} {fault : ε} :
    xs.mapM f = .error fault ↔
      ∃ before x after, xs = before ++ x :: after ∧ (∀ y ∈ before, ∃ b, f y = .ok b) ∧
        f x = .error fault := by
  induction xs with
  | nil =>
      constructor
      · intro h
        cases h
      · rintro ⟨before, x, after, hxs, -, -⟩
        simp at hxs
  | cons x xs ih =>
      rw [List.mapM_cons]
      constructor
      · intro h
        cases hx : f x with
        | error e =>
            rw [hx] at h
            obtain rfl := Except.error.inj h
            exact ⟨[], x, xs, rfl, by simp, hx⟩
        | ok b =>
            rw [hx] at h
            cases hrest : xs.mapM f with
            | ok rest =>
                rw [hrest] at h
                cases h
            | error e =>
                rw [hrest] at h
                obtain rfl := Except.error.inj h
                obtain ⟨before, y, after, rfl, hbefore, hy⟩ := ih.mp hrest
                refine ⟨x :: before, y, after, rfl, ?_, hy⟩
                exact List.forall_mem_cons.mpr ⟨⟨b, hx⟩, hbefore⟩
      · rintro ⟨before, y, after, hxs, hbefore, hy⟩
        cases before with
        | nil =>
            obtain ⟨rfl, rfl⟩ := List.cons.inj hxs
            rw [hy]
            rfl
        | cons z before =>
            obtain ⟨rfl, rfl⟩ := List.cons.inj hxs
            obtain ⟨⟨b, hb⟩, hbefore⟩ := List.forall_mem_cons.mp hbefore
            rw [hb, ih.mpr ⟨before, y, after, rfl, hbefore, hy⟩]
            rfl

theorem exists_mapM_iff {f : α → Except ε β} {xs : List α} :
    (∃ ys, xs.mapM f = .ok ys) ↔ ∀ x ∈ xs, ∃ y, f x = .ok y := by
  simp only [mapM_eq_ok_iff]
  constructor
  · rintro ⟨ys, hall, -⟩
    exact hall
  · intro hall
    exact ⟨_, hall, rfl⟩

/-- What is found of the results is what is known of the elements. -/
theorem map_eq_of_mapM {γ : Type} {f : α → Except ε β} {g : β → γ} {h : α → γ}
    (hf : ∀ x y, f x = .ok y → g y = h x) {xs : List α} {ys : List β} (hys : xs.mapM f = .ok ys) :
    ys.map g = xs.map h := by
  induction xs generalizing ys with
  | nil =>
      obtain rfl := Except.ok.inj hys
      rfl
  | cons x xs ih =>
      rw [List.mapM_cons] at hys
      obtain ⟨y, hy, hys⟩ := bind_eq_ok_iff.mp hys
      obtain ⟨rest, hrest, hys⟩ := bind_eq_ok_iff.mp hys
      obtain rfl := pure_eq_ok_iff.mp hys
      rw [List.map_cons, List.map_cons, hf x y hy, ih hrest]

/-- Work on the lists of a list is work on all their elements, one after the other. -/
theorem mapM_flatten {f : α → Except ε β} {xss : List (List α)} :
    xss.flatten.mapM f = (xss.mapM (List.mapM f)).map List.flatten := by
  induction xss with
  | nil => rfl
  | cons xs xss ih =>
      rw [List.flatten_cons, List.mapM_append, List.mapM_cons, ih]
      cases xs.mapM f with
      | error fault => rfl
      | ok ys => cases xss.mapM (List.mapM f) <;> rfl

theorem mapM_mapM_eq_error_iff {f : α → Except ε β} {xss : List (List α)} {fault : ε} :
    xss.mapM (List.mapM f) = .error fault ↔ xss.flatten.mapM f = .error fault := by
  rw [mapM_flatten]
  cases xss.mapM (List.mapM f) <;> simp [Except.map]

end LintReport
