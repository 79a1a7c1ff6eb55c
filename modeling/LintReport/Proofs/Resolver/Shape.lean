import LintReport.Proofs.Path.Normal
import LintReport.Proofs.Resolver.Opened
import LintReport.Proofs.Resolver.Placement

/-!
# The shape of entries

Loads make entries of three shapes only: without a map and without a path to look for one, inline at
a data URL, and external at a normal path. A cache in use holds no others, whatever has been looked
up and changed on the disk. So the source that a lookup finds has either the beginning of the data
URL before it or a normal path, and its line and column are known.
-/

namespace LintReport

/-- The three shapes of entries. -/
inductive Entry.Shaped (entry : Entry) : Prop where
  | undirected (hurl : entry.url? = none) (hinline : entry.isInline = false)
      (hmap : entry.sourceMap? = none)
  | inline {url : Text} (hurl : entry.url? = some url) (hinline : entry.isInline = true)
      (hstart : Directive.isInline url = true)
  | external {path : Text} (hurl : entry.url? = some path) (hinline : entry.isInline = false)
      (hpath : Path.IsNormal path)

def Cache.Shaped (cache : Cache) : Prop :=
  ∀ e ∈ cache.entries, e.2.Shaped

theorem Cache.Shaped.of_get? {cache : Cache} {path : Text} {found : Entry} (h : cache.Shaped)
    (hfound : cache.get? path = some found) : found.Shaped := by
  obtain ⟨before, after, hentries, -⟩ := List.lookup_eq_some_iff.mp hfound
  exact h (path, found) (by simp [hentries])

namespace Resolver

section Load

variable {disk : Disk} {generated : Text}
  (hdirectory : Path.isAbsolute disk.workingDirectory = true)

include hdirectory

theorem isNormal_besides (path name : Text) : Path.IsNormal (besides disk path name) :=
  Path.isNormal_absolute hdirectory _

theorem shaped_of_target {value : Text} {entry : Option SourceMap → Entry} {text : Option Text}
    (h : target disk generated value = .ok (entry, text)) (sourceMap : Option SourceMap) :
    (entry sourceMap).Shaped := by
  unfold target at h
  split at h
  · next hinline =>
      obtain ⟨rfl, -⟩ := Prod.mk.inj (Except.ok.inj h)
      exact .inline rfl rfl hinline
  · split at h
    · obtain ⟨rfl, -⟩ := Prod.mk.inj (Except.ok.inj h)
      exact .external rfl rfl (isNormal_besides hdirectory generated _)
    · cases h

/-- Every branch of a load that produces an entry produces one of the three shapes. -/
theorem shaped_of_outcome_load {found : Entry}
    (h : (load disk generated).outcome = .ok (some found)) : found.Shaped := by
  rw [outcome_load] at h
  split at h
  · split at h
    · obtain rfl := Option.some.inj (Except.ok.inj h)
      exact .undirected rfl rfl rfl
    · cases h
  · next value hvalue =>
      rw [outcome_follow] at h
      split at h
      · cases h
      · next entry htarget =>
          obtain rfl := Option.some.inj (Except.ok.inj h)
          exact shaped_of_target hdirectory htarget none
      · next entry t htarget =>
          cases hparse : parseMap disk.room.sourceMap t with
          | error fault =>
              rw [hparse] at h
              cases h
          | ok parsed =>
              rw [hparse] at h
              obtain rfl := Option.some.inj (Except.ok.inj h)
              exact shaped_of_target hdirectory htarget parsed.1

/-- A lookup keeps the shapes of a cache. -/
theorem shaped_entry {cache : Cache} (h : cache.Shaped) (source : Text) :
    (entry disk cache source).cache.Shaped := by
  cases hknown : cache.get? source with
  | some known => rwa [entry_of_get?_some hknown]
  | none =>
      rw [cache_entry_of_get?_none hknown]
      split
      · next found hfound =>
          intro e he
          rcases List.mem_append.mp he with hbefore | hnew
          · exact h e hbefore
          · rw [List.mem_singleton.mp hnew]
            exact shaped_of_outcome_load hdirectory (Loading.produced?_eq_some_iff.mp hfound)
      · exact h

end Load

/-! ## A history -/

namespace State

theorem shaped_next {s : State} (hdirectory : Path.isAbsolute s.disk.workingDirectory = true)
    (h : ∀ i, (s.caches i).Shaped) (e : Event) (i : Nat) : ((s.next e).caches i).Shaped := by
  cases e with
  | put path content => exact h i
  | delete path => exact h i
  | lookup j p =>
      by_cases hj : i = j
      · subst hj
        rw [next, setCache_same, cache_lookup]
        exact shaped_entry hdirectory (h i) p.source
      · rw [next, setCache_other s hj]
        exact h i

/-- The invariant of a history: no event puts an entry of another shape into a cache. -/
theorem shaped_after {s : State} (hdirectory : Path.isAbsolute s.disk.workingDirectory = true)
    (h : ∀ i, (s.caches i).Shaped) (events : List Event) (i : Nat) :
    ((s.after events).caches i).Shaped := by
  induction events generalizing s with
  | nil => exact h i
  | cons e rest ih =>
      rw [after_cons]
      refine ih ?_ (shaped_next hdirectory h e)
      rwa [disk_next, workingDirectory_onDisk]

end State

/-! ## Answers -/

section Answer

variable {disk : Disk} {cache : Cache}

theorem get?_of_result_entry {source : Text} {found : Entry}
    (h : (entry disk cache source).result = .ok (some found)) :
    (entry disk cache source).cache.get? source = some found := by
  rw [get?_entry]
  cases hknown : cache.get? source with
  | some known =>
      rw [entry_of_get?_some hknown] at h
      exact Except.ok.inj h
  | none =>
      rw [result_entry_of_get?_none hknown] at h
      rw [Option.none_or, if_pos rfl]
      exact Loading.produced?_eq_some_iff.mpr h

/-- A lookup that finds a source answers from an entry that the cache then holds. -/
theorem exists_get?_of_found {p : Position} {r : Resolution}
    (h : (lookup disk cache p).result = .ok r) (hr : r.outcome = .found) :
    ∃ found, (lookup disk cache p).cache.get? p.source = some found ∧ Answers disk found p r := by
  rw [result_lookup] at h
  cases hentry : (entry disk cache p.source).result with
  | error fault =>
      rw [hentry] at h
      cases h
  | ok found =>
      rw [hentry] at h
      cases found with
      | none =>
          obtain rfl := Except.ok.inj h
          cases hr
      | some found =>
          rw [cache_lookup]
          exact ⟨found, get?_of_result_entry hentry, answers_of_answer h⟩

/-- Whether a source is named as an entry has it: with the beginning of the data URL before it, or as
it lies beside the map. -/
def Names (disk : Disk) (found : Entry) (source : Text) : Prop :=
  ∃ url, found.url? = some url ∧
    if found.isInline then Directive.inlineStart <+: source
    else Path.IsNormal source ∧ ∃ name, source = besides disk url name

theorem names_of_sourcePath {found : Entry} {sourceMap : SourceMap} {source : Value} {path : Text}
    (hdirectory : Path.isAbsolute disk.workingDirectory = true)
    (hmap : found.sourceMap? = some sourceMap) (h : sourcePath disk found source = .ok path) :
    Names disk found path := by
  cases found with
  | undirected => cases hmap
  | inline url _ =>
      obtain ⟨s, -, rfl⟩ := sourcePath_inline_eq_ok h
      exact ⟨url, rfl, List.prefix_append _ _⟩
  | external file _ =>
      cases source with
      | str s =>
          obtain ⟨name, -, rfl⟩ := sourcePath_external_eq_ok h
          exact ⟨file, rfl, isNormal_besides hdirectory file name, name, rfl⟩
      | _ => cases h

end Answer

/-- At any moment every cache in use holds entries of the three shapes only. A lookup at that moment
that answers without a source gives the position itself. Where it finds a source, it does so from an
entry that the cache then holds and that has a path or a data URL; line and column are integers, and
the source has the beginning of the data URL before it if the entry is inline, and otherwise a normal
path, beside that of the map. The working directory is absolute, as every one is. -/
theorem lookup_after_shaped {disk : Disk}
    (hdirectory : Path.isAbsolute disk.workingDirectory = true) (events : List Event) (i : Nat) :
    let s := (State.start disk).after events
    (s.caches i).Shaped ∧
      ∀ (p : Position) (r : Resolution), (lookup s.disk (s.caches i) p).result = .ok r →
        (r.outcome ≠ .found → r.position = p) ∧
          (r.outcome = .found → ∃ (found : Entry) (line column : Int),
            (lookup s.disk (s.caches i) p).cache.get? p.source = some found ∧ found.Shaped ∧
              r.position.line = .int line ∧ r.position.column = .int column ∧
              Names s.disk found r.position.source) := by
  intro s
  have hworking : Path.isAbsolute s.disk.workingDirectory = true := by
    rw [State.workingDirectory_after]
    exact hdirectory
  have hshaped : (s.caches i).Shaped := by
    refine State.shaped_after hdirectory (fun j e he => ?_) events i
    cases he
  refine ⟨hshaped, fun p r h => ⟨position_of_lookup h, fun hr => ?_⟩⟩
  obtain ⟨found, hfound, hanswers⟩ := exists_get?_of_found h hr
  have hcache : (lookup s.disk (s.caches i) p).cache.Shaped := by
    rw [cache_lookup]
    exact shaped_entry hworking hshaped p.source
  cases hanswers with
  | noMap hmap => cases hr
  | noMatch hmap horigin => cases hr
  | found hmap horigin hpath =>
      exact ⟨found, _, _, hfound, hcache.of_get? hfound, rfl, rfl,
        names_of_sourcePath hworking hmap hpath⟩

def outPosition : Position := ⟨"out/a.js", .int 1, .int 4⟩

/-- A history in which the map is deleted after a lookup. -/
def outEvents : List Event := [.lookup 0 outPosition, .delete "out/a.map"]

theorem outcome_load_externalOutDisk :
    (load externalOutDisk outPosition.source).outcome =
      .ok (some (.external "/w/out/a.map" (some outMap))) := by
  have hname : Path.IsName "a.map" := ⟨by decide, by decide, by decide, by decide⟩
  have hblank : ∀ c, ("a.map".toList : Text).getLast? = some c → Text.isBlank c = false :=
    Text.isBlank_of_getLast? rfl (by decide)
  have hgenerated : externalOutDisk.file? outPosition.source = some (.bytes (Utf8.encode
      ("x".toList ++ '\n' :: directive "a.map"))) := rfl
  have hmap : externalOutDisk.file? (besides externalOutDisk outPosition.source "a.map") =
      some (.bytes (Utf8.encode outMapText)) := rfl
  have hvalue := directiveValue?_of_file? (by decide) (by decide) (by decide) hblank hgenerated
  exact outcome_load_of_target hvalue (target_name hname (by decide) hmap) ofText_outMapText

theorem result_lookup_outEvents :
    let s := (State.start externalOutDisk).after outEvents
    (lookup s.disk (s.caches 0) outPosition).result =
      .ok ⟨.found, ⟨"/w/src/s.ts", .int 1, .int 0⟩⟩ := by
  have horigin : outMap.origin? outPosition.line outPosition.column .greatestLowerBound =
      .ok (some ⟨.str "../src/s.ts", 1, 0, .null⟩) := by with_unfolding_all rfl
  have hpath : sourcePath externalOutDisk (.external "/w/out/a.map" (some outMap))
      (.str "../src/s.ts") = .ok "/w/src/s.ts" := rfl
  have hproduced : (load externalOutDisk outPosition.source).produced?.isSome = true := by
    rw [Loading.produced?, outcome_load_externalOutDisk]
    rfl
  have hbasis : basis 0 outPosition.source externalOutDisk outEvents = externalOutDisk := by
    rw [outEvents, basis, hproduced]
    rfl
  intro s
  rw [result_lookup_after, hbasis, result_lookup_empty, outcome_load_externalOutDisk, Except.bind,
    answer_of_origin? rfl horigin hpath]

theorem lookup_after_shaped_outEvents :
    let s := (State.start externalOutDisk).after outEvents
    Path.isAbsolute externalOutDisk.workingDirectory = true ∧ (s.caches 0).Shaped ∧
      (lookup s.disk (s.caches 0) outPosition).result =
        .ok ⟨.found, ⟨"/w/src/s.ts", .int 1, .int 0⟩⟩ ∧
      ∃ found, (lookup s.disk (s.caches 0) outPosition).cache.get? outPosition.source =
          some found ∧
        found.Shaped ∧ Names s.disk found "/w/src/s.ts" := by
  intro s
  have hdirectory : Path.isAbsolute externalOutDisk.workingDirectory = true := rfl
  obtain ⟨hshaped, hanswers⟩ := lookup_after_shaped hdirectory outEvents 0
  have hresult := result_lookup_outEvents
  obtain ⟨-, hfound⟩ := hanswers outPosition _ hresult
  obtain ⟨found, line, column, hget, hfoundShaped, -, -, hnames⟩ := hfound rfl
  exact ⟨hdirectory, hshaped, hresult, found, hget, hfoundShaped, hnames⟩

end Resolver

end LintReport
