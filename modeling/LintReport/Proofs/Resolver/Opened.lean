import LintReport.Proofs.Resolver.Load
import LintReport.Proofs.Resolver.Recall
import LintReport.Proofs.Resolver.Spoiled

/-!
# The files that lookups open

Files are opened by loads only, and a load happens only where a cache has no entry yet for a file
that exists. It opens the generated file, and then at most the file that the last directive names. A
load that comes to an end without a fault leaves an entry behind, whatever was wrong with the files.
Since entries stay, the lookups of a source through one cache open files once, unless loads of that
source have faults.
-/

namespace LintReport.Resolver

/-! ## What a load opens -/

/-- The existing file that the last directive of a generated file names. The text of an inline map
is in no file of its own. -/
def mapFile? (disk : Disk) (generated : Text) : Option Text :=
  match directiveValue? disk generated with
  | none => none
  | some value =>
    if Directive.isInline value then none
    else
      match Url.toPath value with
      | .ok name => some (besides disk generated name) |>.filter disk.isFile
      | .error _ => none

section Load

variable {disk : Disk} {generated : Text}

theorem opened_finish (depth : Nat) (opened : List Text) (entry : Option SourceMap → Entry)
    (t : Text) : (finish depth opened entry t).opened = opened := by
  unfold finish
  cases parseMap depth t <;> rfl

theorem opened_loadExternal (opened : List Text) (name : Text) :
    (loadExternal disk opened generated name).opened =
      opened ++ disk.opened (besides disk generated name) := by
  unfold loadExternal
  dsimp only
  cases hfile : disk.isFile (besides disk generated name) with
  | false => simp [Disk.opened, hfile]
  | true =>
      cases disk.read (besides disk generated name) with
      | error fault => rfl
      | ok t => exact opened_finish _ _ _ t

theorem opened_load (disk : Disk) (generated : Text) :
    (load disk generated).opened =
      if disk.isFile generated then
        disk.locate generated :: ((mapFile? disk generated).map disk.locate).toList
      else [] := by
  unfold load
  cases hfile : disk.isFile generated with
  | false => rfl
  | true =>
      have hopened : disk.opened generated = [disk.locate generated] := by
        rw [Disk.opened, if_pos hfile]
      simp only [if_true, hopened, mapFile?, directiveValue?]
      cases disk.read generated with
      | error fault => rfl
      | ok t =>
          dsimp only
          cases Directive.find? t with
          | none => rfl
          | some value =>
              dsimp only [follow]
              cases Directive.isInline value with
              | true =>
                  cases Directive.inlineText value with
                  | error fault => rfl
                  | ok t => exact opened_finish _ _ _ t
              | false =>
                  cases Url.toPath value with
                  | error fault => rfl
                  | ok name =>
                      refine (opened_loadExternal _ name).trans ?_
                      cases hmap : disk.isFile (besides disk generated name) <;>
                        simp [Disk.opened, Option.filter, hmap]

end Load

/-! ## What a load leaves behind -/

/-- The ways in which a load of an existing file leads to an entry without a map. -/
inductive Degrades (disk : Disk) (generated : Text) : Entry → Prop
  | unreadable {fault : Disk.Fault} (hfile : disk.isFile generated = true)
      (hread : disk.read generated = .error fault) : Degrades disk generated .undirected
  | undirected {t : Text} (hread : disk.read generated = .ok t)
      (hfind : Directive.find? t = none) : Degrades disk generated .undirected
  /-- The directive leads to no text: the file it names is missing or cannot be read, or what stands
  inline is no encoded text. -/
  | unreachable {value : Text} {entry : Option SourceMap → Entry}
      (hvalue : directiveValue? disk generated = some value)
      (htarget : target disk generated value = .ok (entry, none)) :
      Degrades disk generated (entry none)
  | malformed {value t : Text} {entry : Option SourceMap → Entry} {flaw : SourceMap.Flaw}
      (hvalue : directiveValue? disk generated = some value)
      (htarget : target disk generated value = .ok (entry, some t))
      (hmap : SourceMap.ofText t disk.room.sourceMap = .error (.flaw flaw)) :
      Degrades disk generated (entry none)

section Load

variable {disk : Disk} {generated : Text}

theorem Degrades.outcome_load {found : Entry} (h : Degrades disk generated found) :
    (load disk generated).outcome = .ok (some found) := by
  rw [Resolver.outcome_load]
  cases h with
  | unreadable hfile hread => simp [directiveValue?, hread, hfile]
  | undirected hread hfind =>
      simp [directiveValue?, hread, hfind, Disk.isFile_of_read hread]
  | unreachable hvalue htarget =>
      rw [hvalue]
      dsimp only
      rw [outcome_follow, htarget]
  | malformed hvalue htarget hmap =>
      rw [← Resolver.outcome_load, outcome_load_of_text hvalue htarget, parseMap, hmap]
      rfl

theorem outcome_load_of_not_isFile (h : disk.isFile generated = false) :
    (load disk generated).outcome = .ok none := by
  simp [load, h]

theorem outcome_follow_ne_none (opened : List Text) (value : Text) :
    (follow disk opened generated value).outcome ≠ .ok none := by
  rw [outcome_follow]
  cases target disk generated value with
  | error fault => simp
  | ok reached =>
      obtain ⟨entry, text⟩ := reached
      cases text with
      | none => simp
      | some t => cases hparse : parseMap disk.room.sourceMap t <;> simp [hparse, Except.map]

/-- A load of an existing file produces an entry unless it has a fault. -/
theorem exists_entry_of_outcome_load {found : Option Entry}
    (hfile : disk.isFile generated = true) (h : (load disk generated).outcome = .ok found) :
    ∃ entry, found = some entry := by
  cases found with
  | some entry => exact ⟨entry, rfl⟩
  | none =>
      -- only a file that does not exist leads to no entry; without a directive there is one
      rw [outcome_load] at h
      cases hvalue : directiveValue? disk generated with
      | none => simp [hvalue, hfile] at h
      | some value =>
          rw [hvalue] at h
          exact absurd h (outcome_follow_ne_none _ value)

end Load

/-! ## One lookup -/

section Lookup

variable {disk : Disk} {cache : Cache} {source : Text}

theorem opened_lookup (p : Position) :
    (lookup disk cache p).opened = (entry disk cache p.source).opened := by
  unfold lookup Work.andThen
  cases (entry disk cache p.source).result <;> simp

theorem opened_entry_of_get?_none (h : cache.get? source = none) :
    (entry disk cache source).opened = (load disk source).opened := by
  unfold entry
  rw [h]
  dsimp only
  split <;> rfl

/-- A lookup opens what a load opens if the cache has no entry, and else nothing. -/
theorem opened_lookup_eq (p : Position) :
    (lookup disk cache p).opened =
      if cache.get? p.source = none ∧ disk.isFile p.source = true then
        disk.locate p.source :: ((mapFile? disk p.source).map disk.locate).toList
      else [] := by
  rw [opened_lookup]
  cases hknown : cache.get? p.source with
  | some known => simp [entry_of_get?_some hknown]
  | none => rw [opened_entry_of_get?_none hknown, opened_load]; simp

theorem entries_entry (source : Text) :
    cache.entries <+: (entry disk cache source).cache.entries := by
  cases hknown : cache.get? source with
  | some known => exact ⟨[], by rw [List.append_nil, entry_of_get?_some hknown]⟩
  | none =>
      rw [cache_entry_of_get?_none hknown]
      cases (load disk source).produced? with
      | none => exact List.prefix_rfl
      | some found => exact List.prefix_append _ _

theorem cache_lookup_of_outcome {p : Position} {found : Entry}
    (hknown : cache.get? p.source = none)
    (hload : (load disk p.source).outcome = .ok (some found)) :
    (lookup disk cache p).cache = cache.insertNew p.source found := by
  rw [cache_lookup, cache_entry_of_get?_none hknown, Loading.produced?_eq_some_iff.mpr hload]

theorem cache_lookup_of_produced?_none {p : Position}
    (hload : (load disk p.source).produced? = none) : (lookup disk cache p).cache = cache := by
  rw [cache_lookup]
  cases hknown : cache.get? p.source with
  | some known => rw [entry_of_get?_some hknown]
  | none => rw [cache_entry_of_get?_none hknown, hload]

theorem cache_lookup_of_not_loads {p : Position}
    (h : ¬(cache.get? p.source = none ∧ disk.isFile p.source = true)) :
    (lookup disk cache p).cache = cache := by
  cases hfile : disk.isFile p.source with
  | false =>
      apply cache_lookup_of_produced?_none
      rw [Loading.produced?, outcome_load_of_not_isFile hfile]
  | true =>
      have hknown : cache.get? p.source ≠ none := fun hknown => h ⟨hknown, hfile⟩
      obtain ⟨known, hknown⟩ := Option.ne_none_iff_exists'.mp hknown
      rw [cache_lookup, entry_of_get?_some hknown]

end Lookup

/-! ## A history -/

namespace State

theorem entries_next (s : State) (e : Event) (i : Nat) :
    (s.caches i).entries <+: ((s.next e).caches i).entries := by
  cases e with
  | put path content => exact List.prefix_rfl
  | delete path => exact List.prefix_rfl
  | lookup j p =>
      by_cases hj : i = j
      · subst hj
        simpa only [next, setCache_same, cache_lookup] using entries_entry p.source
      · exact ⟨[], by rw [List.append_nil, next, setCache_other s hj]⟩

/-- A cache only grows, at its end. -/
theorem entries_after (s : State) (events : List Event) (i : Nat) :
    (s.caches i).entries <+: ((s.after events).caches i).entries := by
  induction events generalizing s with
  | nil => exact List.prefix_rfl
  | cons e rest ih => exact (entries_next s e i).trans (ih (s.next e))

theorem locate_after (s : State) (events : List Event) :
    (s.after events).disk.locate = s.disk.locate := by
  funext path
  rw [Disk.locate, workingDirectory_after]
  rfl

end State

/-- The files that the lookups of a source through a cache open in a history, in order. -/
def openedFor (i : Nat) (source : Text) (s : State) : List Event → List Text
  | [] => []
  | e :: rest =>
    (if e.asks i source then ((s.work? e).map Work.opened).getD [] else []) ++
      openedFor i source (s.next e) rest

/-- Whether all loads of a source through a cache in a history are without a fault. -/
def LoadsReturn (i : Nat) (source : Text) (s : State) : List Event → Prop
  | [] => True
  | e :: rest =>
    (e.asks i source = true → (s.caches i).get? source = none →
        ∃ found, (load s.disk source).outcome = .ok found) ∧
      LoadsReturn i source (s.next e) rest

section History

variable {i : Nat} {source : Text} {s : State} {events : List Event}

theorem Event.exists_lookup_of_asks {e : Event} (h : e.asks i source = true) :
    ∃ p, e = .lookup i p ∧ p.source = source := by
  cases e with
  | put path content => cases h
  | delete path => cases h
  | lookup j p =>
      obtain ⟨rfl, hp⟩ : j = i ∧ p.source = source := by simpa [asks] using h
      exact ⟨p, rfl, hp⟩

theorem openedFor_of_get?_some {known : Entry} (h : (s.caches i).get? source = some known)
    (events : List Event) : openedFor i source s events = [] := by
  -- an entry stays, so that it answers every later lookup of its source
  induction events generalizing s with
  | nil => rfl
  | cons e rest ih =>
      have hnext : ((s.next e).caches i).get? source = some known := by
        rw [State.get?_next, h, Option.some_or]
      rw [openedFor, ih hnext, List.append_nil]
      split
      · next hasks =>
          obtain ⟨p, rfl, rfl⟩ := Event.exists_lookup_of_asks hasks
          simp [State.work?, opened_lookup, entry_of_get?_some h]
      · rfl

/-- The lookups of a source through a cache open files in one of them at most. -/
theorem openedFor_eq (hreturn : LoadsReturn i source s events) :
    openedFor i source s events = [] ∨
      ∃ earlier p later, events = earlier ++ Event.lookup i p :: later ∧ p.source = source ∧
        openedFor i source s events =
          s.disk.locate source ::
            ((mapFile? (s.after earlier).disk source).map s.disk.locate).toList := by
  induction events generalizing s with
  | nil => exact Or.inl rfl
  | cons e rest ih =>
      obtain ⟨hload, hrest⟩ := hreturn
      have hlocate : (s.next e).disk.locate = s.disk.locate := State.locate_after s [e]
      -- an event that opens nothing leaves it to the rest
      have hskip (hopened : openedFor i source s (e :: rest) = openedFor i source (s.next e) rest) :
          openedFor i source s (e :: rest) = [] ∨
            ∃ earlier p later, e :: rest = earlier ++ Event.lookup i p :: later ∧
              p.source = source ∧ openedFor i source s (e :: rest) =
                s.disk.locate source ::
                  ((mapFile? (s.after earlier).disk source).map s.disk.locate).toList := by
        rw [hopened]
        rcases ih hrest with hnone | ⟨earlier, p, later, rfl, hp, heq⟩
        · exact Or.inl hnone
        · rw [hlocate] at heq
          exact Or.inr ⟨e :: earlier, p, later, rfl, hp, heq⟩
      cases hasks : e.asks i source with
      | false => exact hskip (by simp [openedFor, hasks])
      | true =>
          obtain ⟨p, rfl, rfl⟩ := Event.exists_lookup_of_asks hasks
          have hcons : openedFor i p.source s (.lookup i p :: rest) =
              (lookup s.disk (s.caches i) p).opened ++
                openedFor i p.source (s.next (.lookup i p)) rest := by
            simp [openedFor, hasks, State.work?]
          rw [opened_lookup_eq] at hcons
          by_cases hloads : (s.caches i).get? p.source = none ∧ s.disk.isFile p.source = true
          · obtain ⟨hknown, hfile⟩ := hloads
            obtain ⟨found, houtcome⟩ := hload hasks hknown
            obtain ⟨entry, rfl⟩ := exists_entry_of_outcome_load hfile houtcome
            -- the load leaves an entry, so that nothing is opened afterwards
            have hnext : ((s.next (.lookup i p)).caches i).get? p.source = some entry := by
              rw [State.get?_next, hknown, if_pos hasks, Option.none_or]
              exact Loading.produced?_eq_some_iff.mpr houtcome
            rw [if_pos ⟨hknown, hfile⟩, openedFor_of_get?_some hnext, List.append_nil] at hcons
            exact Or.inr ⟨[], p, rest, rfl, rfl, hcons⟩
          · rw [if_neg hloads] at hcons
            exact hskip hcons

end History

/-- A lookup opens files only if the cache has no entry for its source and the source is an existing
file. Then it opens the generated file first, and after it at most the existing file that the last
directive names. If the load has no fault an entry is stored, whatever was wrong with the files;
otherwise the cache stays as it was. Over a history entries are neither removed nor changed, and as
long as the loads of a source have no fault its lookups open files in one of them at most, whatever
happens to the disk. -/
theorem lookup_loads_once (s : State) (i : Nat) (p : Position) (events : List Event) :
    let cache := s.caches i
    let work := lookup s.disk cache p
    let loads := cache.get? p.source = none ∧ s.disk.isFile p.source = true
    (¬loads → work.opened = [] ∧ work.cache = cache) ∧
      (loads →
        work.opened =
          s.disk.locate p.source :: ((mapFile? s.disk p.source).map s.disk.locate).toList) ∧
      (loads →
        match (load s.disk p.source).outcome with
        | .error _ => work.cache = cache
        | .ok found =>
          ∃ entry, found = some entry ∧ work.cache = cache.insertNew p.source entry) ∧
      (loads → ∀ entry, Degrades s.disk p.source entry →
        work.cache = cache.insertNew p.source entry) ∧
      cache.entries <+: ((s.after events).caches i).entries ∧
      cache.size ≤ ((s.after events).caches i).size ∧
      (∀ source known, cache.get? source = some known →
        ((s.after events).caches i).get? source = some known) ∧
      ∀ source, LoadsReturn i source s events →
        openedFor i source s events = [] ∨
          ∃ earlier q later, events = earlier ++ Event.lookup i q :: later ∧ q.source = source ∧
            openedFor i source s events =
              s.disk.locate source ::
                ((mapFile? (s.after earlier).disk source).map s.disk.locate).toList := by
  intro cache work loads
  have hopened : work.opened = _ := opened_lookup_eq p
  have hgrown := State.entries_after s events i
  refine ⟨fun h => ⟨hopened.trans (if_neg h), cache_lookup_of_not_loads h⟩,
    fun h => hopened.trans (if_pos h), ?_, ?_, hgrown, hgrown.length_le,
    fun source known h => State.get?_after_of_some h events, fun source h => openedFor_eq h⟩
  · rintro ⟨hknown, hfile⟩
    cases houtcome : (load s.disk p.source).outcome with
    | error fault =>
        exact cache_lookup_of_produced?_none (by rw [Loading.produced?, houtcome])
    | ok found =>
        obtain ⟨entry, rfl⟩ := exists_entry_of_outcome_load hfile houtcome
        exact ⟨entry, rfl, cache_lookup_of_outcome hknown houtcome⟩
  · rintro ⟨hknown, -⟩ entry hdegrades
    exact cache_lookup_of_outcome hknown hdegrades.outcome_load

def selfNamedDisk : Disk :=
  ⟨"/work", [("/work/a.js", .bytes (Utf8.encode "x\n//# sourceMappingURL=a.js"))], [], {}⟩

theorem opened_selfNamedDisk :
    let source : Text := "/work/a.js"
    let work := lookup selfNamedDisk Cache.empty ⟨source, .int 1, .int 0⟩
    Cache.empty.get? source = none ∧ selfNamedDisk.isFile source = true ∧
      work.result = .ok ⟨.noMap, ⟨source, .int 1, .int 0⟩⟩ ∧
      work.opened.count (selfNamedDisk.locate source) = 2 := by
  have hend : ∀ c, ("a.js".toList : Text).getLast? = some c → Text.isBlank c = false :=
    Text.isBlank_of_getLast? rfl (by decide)
  have hfile : selfNamedDisk.file? "/work/a.js" =
      some (.bytes (Utf8.encode ("x".toList ++ '\n' :: directive "a.js"))) := rfl
  have hvalue := directiveValue?_of_file? (by decide) (by decide) (by decide) hend hfile
  have hmap : selfNamedDisk.file? (besides selfNamedDisk "/work/a.js" "a.js") =
      some (.bytes (Utf8.encode ("x".toList ++ '\n' :: directive "a.js"))) := rfl
  have htarget := target_of_file? rfl rfl hmap
  rw [Disk.unixLineBreaks_of_not_mem (by decide)] at htarget
  have hjson : SourceMap.ofText ("x".toList ++ '\n' :: directive "a.js") =
      .error (.flaw .notJson) := rfl
  have hload := (Degrades.malformed hvalue htarget hjson).outcome_load
  refine ⟨rfl, rfl, ?_, ?_⟩
  · rw [result_lookup_empty, hload]
    exact answer_of_no_map rfl _
  · rw [opened_lookup_eq, if_pos ⟨rfl, rfl⟩]
    have hmapFile : mapFile? selfNamedDisk "/work/a.js" = some "/work/a.js" := by
      rw [mapFile?, hvalue]
      rfl
    rw [hmapFile]
    rfl

end LintReport.Resolver
