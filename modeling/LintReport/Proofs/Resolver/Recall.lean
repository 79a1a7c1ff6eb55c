import LintReport.Resolver.History

/-!
# What a cache recalls

A cache is only a memory of loads. Whatever happened before, a lookup answers as one through a fresh
cache would have answered on the disk of the first lookup of the same source through the same cache
that produced an entry. The disk that an answer rests on is found without looking at any cache.

A resolver has no state besides its cache, so resolvers are known here by the numbers of their
caches; resolvers that share a cache have the same number.
-/

namespace LintReport

namespace Work

variable {ε δ α β : Type}

theorem result_andThen (first : Work ε α) (second : α → Cache → Work ε β) :
    (first.andThen second).result =
      first.result.bind fun a => (second a first.cache).result := by
  unfold andThen
  cases first.result <;> rfl

theorem cache_andThen (first : Work ε α) (second : α → Cache → Work ε β) :
    (first.andThen second).cache =
      match first.result with
      | .error _ => first.cache
      | .ok a => (second a first.cache).cache := by
  unfold andThen
  cases first.result <;> rfl

end Work

namespace Cache

@[simp] theorem get?_empty (path : Text) : empty.get? path = none := rfl

theorem get?_insertNew (cache : Cache) (path key : Text) (entry : Entry) :
    (cache.insertNew path entry).get? key =
      (cache.get? key).or (if key = path then some entry else none) := by
  unfold insertNew get?
  rw [List.lookup_append]
  by_cases h : key = path
  · simp [h]
  · have hne : (key == path) = false := beq_false_of_ne h
    simp [List.lookup_cons, h, hne]

end Cache

namespace Resolver

/-- The entry that loading produced, if it did produce one. -/
def Loading.produced? (loading : Loading) : Option Entry :=
  match loading.outcome with
  | .ok found => found
  | .error _ => none

theorem Loading.produced?_eq_some_iff {loading : Loading} {found : Entry} :
    loading.produced? = some found ↔ loading.outcome = .ok (some found) := by
  unfold produced?
  cases loading.outcome <;> simp

/-! ## One lookup -/

section Lookup

variable {disk : Disk} {cache : Cache} {source : Text}

theorem entry_of_get?_some {known : Entry} (h : cache.get? source = some known) :
    entry disk cache source = ⟨.ok (some known), cache, [], []⟩ := by
  simp [entry, h]

theorem result_entry_of_get?_none (h : cache.get? source = none) :
    (entry disk cache source).result = (load disk source).outcome := by
  unfold entry
  rw [h]
  dsimp only
  split
  · next found hload => exact hload.symm
  · rfl

theorem cache_entry_of_get?_none (h : cache.get? source = none) :
    (entry disk cache source).cache =
      match (load disk source).produced? with
      | some found => cache.insertNew source found
      | none => cache := by
  unfold entry Loading.produced?
  rw [h]
  dsimp only
  split
  · next found hload => rw [hload]
  · next outcome hne =>
      cases houtcome : (load disk source).outcome with
      | error fault => rfl
      | ok found =>
          cases found with
          | none => rfl
          | some found => exact absurd houtcome (hne found)

/-- A lookup adds the entry that its load produced, under the source that was asked for, and
nothing else. -/
theorem get?_entry (key : Text) :
    (entry disk cache source).cache.get? key =
      (cache.get? key).or (if key = source then (load disk source).produced? else none) := by
  cases hknown : cache.get? source with
  | some known =>
      rw [entry_of_get?_some hknown]
      by_cases h : key = source
      · simp [h, hknown]
      · simp [h]
  | none =>
      rw [cache_entry_of_get?_none hknown]
      cases (load disk source).produced? with
      | none => simp
      | some found => exact Cache.get?_insertNew cache source key found

@[simp] theorem cache_lookup (p : Position) :
    (lookup disk cache p).cache = (entry disk cache p.source).cache := by
  unfold lookup
  rw [Work.cache_andThen]
  split <;> rfl

theorem result_lookup (p : Position) :
    (lookup disk cache p).result =
      (entry disk cache p.source).result.bind fun found => (answer disk found p).1 := by
  unfold lookup
  rw [Work.result_andThen]

theorem result_lookup_empty (p : Position) :
    (lookup disk Cache.empty p).result =
      (load disk p.source).outcome.bind fun found => (answer disk found p).1 := by
  rw [result_lookup, result_entry_of_get?_none (Cache.get?_empty _)]

/-- Of the disk only the working directory enters into an answer; all else is in the entry. -/
theorem answer_congr {other : Disk} (h : disk.workingDirectory = other.workingDirectory)
    (found : Option Entry) (p : Position) : answer disk found p = answer other found p := by
  have hpath : sourcePath disk = sourcePath other := by
    funext entry source
    simp only [sourcePath, besides, h]
  simp only [answer, hpath]

/-- An entry whose map leads to a source answers with the place of that source. -/
theorem answer_of_origin? {found : Entry} {sourceMap : SourceMap} {p : Position} {origin : Origin}
    {path : Text} (hmap : found.sourceMap? = some sourceMap)
    (horigin : sourceMap.origin? p.line p.column .greatestLowerBound = .ok (some origin))
    (hpath : sourcePath disk found origin.source = .ok path) :
    answer disk (some found) p =
      (.ok ⟨.found, ⟨path, .int origin.line, .int origin.column⟩⟩, []) := by
  unfold answer
  dsimp only
  rw [hmap]
  dsimp only
  rw [horigin]
  dsimp only
  rw [hpath]

end Lookup

/-! ## A history -/

namespace Event

def onDisk (disk : Disk) : Event → Disk
  | lookup _ _ => disk
  | put path content => disk.put path content
  | delete path => disk.delete path

/-- Whether an event is a lookup of a source through a cache. -/
def asks (i : Nat) (source : Text) : Event → Bool
  | lookup j p => j = i && p.source = source
  | put _ _ | delete _ => false

/-- Whether an event is anything but a lookup through another cache. -/
def concerns (i : Nat) : Event → Bool
  | lookup j _ => j = i
  | put _ _ | delete _ => true

end Event

/-- The disk that the answers for a source through a cache rest on after a history: the disk as it
was at the first lookup of the source through the cache whose load produced an entry, or else the
present disk. No cache enters into it. -/
def basis (i : Nat) (source : Text) (disk : Disk) : List Event → Disk
  | [] => disk
  | e :: rest =>
    if e.asks i source && (load disk source).produced?.isSome then disk
    else basis i source (e.onDisk disk) rest

theorem workingDirectory_onDisk (disk : Disk) (e : Event) :
    (e.onDisk disk).workingDirectory = disk.workingDirectory := by
  cases e <;> rfl

theorem workingDirectory_basis (i : Nat) (source : Text) (disk : Disk) (events : List Event) :
    (basis i source disk events).workingDirectory = disk.workingDirectory := by
  induction events generalizing disk with
  | nil => rfl
  | cons e rest ih =>
      unfold basis
      split
      · rfl
      · rw [ih, workingDirectory_onDisk]

namespace State

@[simp] theorem disk_next (s : State) (e : Event) : (s.next e).disk = e.onDisk s.disk := by
  cases e <;> rfl

theorem workingDirectory_after (s : State) (events : List Event) :
    (s.after events).disk.workingDirectory = s.disk.workingDirectory := by
  induction events generalizing s with
  | nil => rfl
  | cons e rest ih => rw [after_cons, ih, disk_next, workingDirectory_onDisk]

/-- What one event adds to a cache: the entry of the load, if it asks for a source that the cache
does not know yet. -/
theorem get?_next (s : State) (e : Event) (i : Nat) (source : Text) :
    ((s.next e).caches i).get? source =
      ((s.caches i).get? source).or
        (if e.asks i source then (load s.disk source).produced? else none) := by
  cases e with
  | put path content => simp [next, Event.asks]
  | delete path => simp [next, Event.asks]
  | lookup j p =>
      by_cases hj : i = j
      · subst hj
        simp only [next, setCache_same, cache_lookup, get?_entry, Event.asks, decide_true,
          Bool.true_and, decide_eq_true_eq]
        by_cases hp : source = p.source
        · simp [hp]
        · simp [hp, Ne.symm hp]
      · have hji : j ≠ i := Ne.symm hj
        simp [next, setCache_other s hj, Event.asks, hji]

/-- An entry stays as it is. -/
theorem get?_after_of_some {s : State} {i : Nat} {source : Text} {known : Entry}
    (h : (s.caches i).get? source = some known) (events : List Event) :
    ((s.after events).caches i).get? source = some known := by
  induction events generalizing s with
  | nil => exact h
  | cons e rest ih =>
      rw [after_cons]
      apply ih
      rw [get?_next, h, Option.some_or]

/-- The invariant of a history. An entry is the one that loading from the basis produces, and where
there is no entry yet the basis is the present disk. -/
theorem get?_after {s : State} {i : Nat} {source : Text}
    (hstart : (s.caches i).get? source = none) (events : List Event) :
    match ((s.after events).caches i).get? source with
    | some known => (load (basis i source s.disk events) source).produced? = some known
    | none => basis i source s.disk events = (s.after events).disk := by
  induction events generalizing s with
  | nil => simp [hstart, basis]
  | cons e rest ih =>
      rw [after_cons]
      have hnext := get?_next s e i source
      rw [hstart, Option.none_or] at hnext
      -- the first event settles the entry for good, or the rest is a history without one again
      cases hasks : e.asks i source with
      | false =>
          simp only [hasks, Bool.false_eq_true, if_false] at hnext
          simpa [basis, hasks] using ih hnext
      | true =>
          rw [if_pos hasks] at hnext
          cases hload : (load s.disk source).produced? with
          | none => simpa [basis, hload] using ih (hnext.trans hload)
          | some known =>
              rw [get?_after_of_some (hnext.trans hload)]
              simp [basis, hasks, hload]

/-- Lookups through other caches leave no trace in a cache or on the disk. -/
theorem after_filter_concerns (s t : State) (i : Nat) (hdisk : s.disk = t.disk)
    (hcache : s.caches i = t.caches i) (events : List Event) :
    (s.after events).disk = (t.after (events.filter (Event.concerns i))).disk ∧
      (s.after events).caches i = (t.after (events.filter (Event.concerns i))).caches i := by
  induction events generalizing s t with
  | nil => exact ⟨hdisk, hcache⟩
  | cons e rest ih =>
      cases e with
      | put path content => exact ih _ _ (by simp [hdisk]) hcache
      | delete path => exact ih _ _ (by simp [hdisk]) hcache
      | lookup j p =>
          by_cases hj : j = i
          · subst hj
            rw [List.filter_cons_of_pos (by simp [Event.concerns])]
            exact ih _ _ (by simp [Event.onDisk, hdisk]) (by simp [next, hdisk, hcache])
          · rw [List.filter_cons_of_neg (by simp [Event.concerns, hj])]
            refine ih _ _ (by simp [Event.onDisk, hdisk]) ?_
            simpa [next, setCache_other s (Ne.symm hj)] using hcache

end State

/-- A lookup after any history answers as a lookup without one does on the disk it rests on. -/
theorem result_lookup_after (disk : Disk) (events : List Event) (i : Nat) (p : Position) :
    (lookup ((State.start disk).after events).disk (((State.start disk).after events).caches i)
        p).result =
      (lookup (basis i p.source disk events) Cache.empty p).result := by
  generalize hs : (State.start disk).after events = s
  have hdirectory :
      s.disk.workingDirectory = (basis i p.source disk events).workingDirectory := by
    rw [workingDirectory_basis, ← hs, State.workingDirectory_after]
    rfl
  have hempty : ((State.start disk).caches i).get? p.source = none := rfl
  have hinvariant := State.get?_after hempty events
  rw [hs] at hinvariant
  rw [result_lookup, result_lookup_empty]
  -- a known entry is what the basis gives, and without one the basis is the present disk
  cases hknown : (s.caches i).get? p.source with
  | some known =>
      rw [hknown] at hinvariant
      rw [entry_of_get?_some hknown]
      have hload : (load (basis i p.source disk events) p.source).outcome = .ok (some known) :=
        Loading.produced?_eq_some_iff.mp hinvariant
      rw [hload]
      exact congrArg Prod.fst (answer_congr hdirectory _ _)
  | none =>
      rw [hknown] at hinvariant
      have hbasis : basis i p.source disk events = s.disk := hinvariant
      rw [result_entry_of_get?_none hknown, hbasis]

/-- Whatever has been looked up and changed before, through whichever caches, a lookup gives the
result, answer or fault, that a fresh cache gives on the disk of the first lookup of the same source
through the same cache that produced an entry, or on the present disk if there was none. Lookups
through other caches might as well not have been made. -/
theorem lookup_after_eq_fresh (disk : Disk) (events : List Event) (i : Nat) (p : Position) :
    let s := (State.start disk).after events
    let t := (State.start disk).after (events.filter (Event.concerns i))
    (lookup s.disk (s.caches i) p).result =
        (lookup (basis i p.source disk events) Cache.empty p).result ∧
      lookup s.disk (s.caches i) p = lookup t.disk (t.caches i) p := by
  intro s t
  obtain ⟨hdisk, hcache⟩ :=
    State.after_filter_concerns (State.start disk) (State.start disk) i rfl rfl events
  refine ⟨result_lookup_after disk events i p, ?_⟩
  rw [hdisk, hcache]

end Resolver

end LintReport
