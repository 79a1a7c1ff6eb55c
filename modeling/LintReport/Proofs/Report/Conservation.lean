import LintReport.Proofs.Report.Groups
import LintReport.Proofs.Resolver.Load
import LintReport.Proofs.Resolver.Recall
import LintReport.Proofs.Result
import LintReport.Proofs.SourceMap.Written
import Mathlib.Algebra.GroupWithZero.Nat

/-!
# What becomes of diagnostics in groups

Taking diagnostics back to their sources changes the cache from one to the next, but not the answers:
each of them is resolved as it would be on its own. So the groups of a report are described without
the cache and without the order of work: the group of a source holds the diagnostics that are
resolved to it, in the order of the report.
-/

namespace LintReport

/-! ## One diagnostic after another -/

theorem Work.result_map_id {ε α β : Type} (f : α → β) (work : Work ε α) :
    (work.map id f).result = work.result.map f := by
  unfold Work.map
  cases work.result <;> rfl

namespace Resolver

variable {disk : Disk} {cache : Cache}

/-- What one lookup leaves in the cache is what another would load, so it answers no differently. -/
theorem result_lookup_entry (source : Text) (p : Position) :
    (lookup disk (entry disk cache source).cache p).result = (lookup disk cache p).result := by
  have hentry : (entry disk (entry disk cache source).cache p.source).result =
      (entry disk cache p.source).result := by
    have hget : (entry disk cache source).cache.get? p.source = _ := get?_entry p.source
    cases hknown : cache.get? p.source with
    | some known =>
        rw [hknown, Option.some_or] at hget
        rw [entry_of_get?_some hget, entry_of_get?_some hknown]
    | none =>
        rw [hknown, Option.none_or] at hget
        rw [result_entry_of_get?_none hknown]
        cases hloaded : (entry disk cache source).cache.get? p.source with
        | none => exact result_entry_of_get?_none hloaded
        | some loaded =>
            rw [entry_of_get?_some hloaded]
            rw [hloaded] at hget
            split at hget
            · next hsource =>
                rw [hsource]
                exact (Loading.produced?_eq_some_iff.mp hget.symm).symm
            · cases hget
  rw [result_lookup, result_lookup, hentry]

theorem result_resolve_entry (source : Text) (p : Position) :
    (resolve disk (entry disk cache source).cache p).result = (resolve disk cache p).result := by
  unfold resolve Work.map
  dsimp only
  rw [result_lookup_entry]

end Resolver

namespace Report

variable {options : Options} {disk : Disk} {cache : Cache}

/-- The position that a diagnostic of a file is reported at, if it is resolved on its own. -/
def ownPosition (options : Options) (disk : Disk) (cache : Cache) (path : Text) (d : Diagnostic) :
    Except Resolver.Fault Position :=
  if options.sourceMaps then (Resolver.resolve disk cache (position disk path d)).result
  else .ok (position disk path d)

theorem result_locate (path : Text) (d : Diagnostic) :
    (locate options disk cache path d).result =
      (ownPosition options disk cache path d).map (relocate d) := by
  unfold locate ownPosition
  dsimp only
  split
  · unfold Work.map
    cases (Resolver.resolve disk cache (position disk path d)).result <;> rfl
  · rfl

theorem ownPosition_locate (path : Text) (d : Diagnostic) (path' : Text) (d' : Diagnostic) :
    ownPosition options disk (locate options disk cache path d).cache path' d' =
      ownPosition options disk cache path' d' := by
  unfold ownPosition
  split
  · next hmaps =>
      have hcache : (locate options disk cache path d).cache =
          (Resolver.entry disk cache (position disk path d).source).cache := by
        rw [locate, if_pos hmaps]
        exact Resolver.cache_lookup _
      rw [hcache, Resolver.result_resolve_entry]
  · rfl

/-- Diagnostics are located one by one as each would be on its own. -/
theorem result_locateAll (located : List (Text × Diagnostic)) :
    (locateAll options disk cache located).result =
      located.mapM fun entry =>
        (ownPosition options disk cache entry.1 entry.2).map (relocate entry.2) := by
  induction located generalizing cache with
  | nil => rfl
  | cons entry rest ih =>
      obtain ⟨path, d⟩ := entry
      rw [locateAll, Work.result_andThen, List.mapM_cons, result_locate]
      cases ownPosition options disk cache path d with
      | error fault => rfl
      | ok p =>
          have hrest := @ih (locate options disk cache path d).cache
          simp only [ownPosition_locate] at hrest
          show ((locateAll options disk (locate options disk cache path d).cache rest).map id
            (relocate d p :: ·)).result = _
          rw [Work.result_map_id, hrest]
          cases rest.mapM fun entry =>
              (ownPosition options disk cache entry.1 entry.2).map (relocate entry.2) <;> rfl

/-- A diagnostic of a file as it is reported for a source, if its own position is in that source. -/
def ownDiagnostic? (options : Options) (disk : Disk) (cache : Cache) (source : Text)
    (entry : Text × Diagnostic) : Option Diagnostic :=
  match ownPosition options disk cache entry.1 entry.2 with
  | .ok p =>
    if p.source = source then some { entry.2 with line := p.line, column := p.column } else none
  | .error _ => none

/-- The sources of the diagnostics, each diagnostic resolved on its own. -/
def ownSources (options : Options) (disk : Disk) (cache : Cache)
    (located : List (Text × Diagnostic)) : List Text :=
  located.filterMap fun entry =>
    (ownPosition options disk cache entry.1 entry.2).toOption.map Position.source

theorem result_locateAll_eq_ok_iff {located found : List (Text × Diagnostic)} :
    (locateAll options disk cache located).result = .ok found ↔
      (∀ entry ∈ located, ∃ p, ownPosition options disk cache entry.1 entry.2 = .ok p) ∧
        found = located.filterMap fun entry =>
          (ownPosition options disk cache entry.1 entry.2).toOption.map (relocate entry.2) := by
  have hok : ∀ entry : Text × Diagnostic,
      (∃ e, (ownPosition options disk cache entry.1 entry.2).map (relocate entry.2) = .ok e) ↔
        ∃ p, ownPosition options disk cache entry.1 entry.2 = .ok p := by
    intro entry
    cases ownPosition options disk cache entry.1 entry.2 <;> simp [Except.map]
  have hvalue : ∀ entry : Text × Diagnostic,
      ((ownPosition options disk cache entry.1 entry.2).map (relocate entry.2)).toOption =
        (ownPosition options disk cache entry.1 entry.2).toOption.map (relocate entry.2) := by
    intro entry
    cases ownPosition options disk cache entry.1 entry.2 <;> rfl
  rw [result_locateAll, mapM_eq_ok_iff]
  simp only [hok, hvalue]

theorem sources_of_located (located : List (Text × Diagnostic)) :
    (located.filterMap fun entry =>
        (ownPosition options disk cache entry.1 entry.2).toOption.map (relocate entry.2)).map
          Prod.fst =
      ownSources options disk cache located := by
  rw [ownSources, List.map_filterMap]
  congr 1
  funext entry
  cases ownPosition options disk cache entry.1 entry.2 <;> rfl

/-- A report is grouped if it is one of a linter and each of its diagnostics can be located on its
own, and its groups are those of the diagnostics so located. -/
theorem result_group_eq_ok_iff {report : Value} {groups : Groups} :
    (group options disk cache report).result = .ok groups ↔
      ∃ files, FileReport.ofReport report = .ok files ∧
        (∀ entry ∈ FileReport.located files,
          ∃ p, ownPosition options disk cache entry.1 entry.2 = .ok p) ∧
        groups = Groups.ofList ((FileReport.located files).filterMap fun entry =>
          (ownPosition options disk cache entry.1 entry.2).toOption.map (relocate entry.2)) := by
  unfold group
  cases FileReport.ofReport report with
  | error fault => simp
  | ok files =>
      simp only [Except.ok.injEq, exists_eq_left']
      unfold groupFiles Work.map
      dsimp only
      cases hlocated : (locateAll options disk cache (FileReport.located files)).result with
      | error fault =>
          constructor
          · intro h
            cases h
          · rintro ⟨hall, -⟩
            rw [result_locateAll_eq_ok_iff.mpr ⟨hall, rfl⟩] at hlocated
            cases hlocated
      | ok found =>
          obtain ⟨hall, rfl⟩ := result_locateAll_eq_ok_iff.mp hlocated
          constructor
          · intro h
            exact ⟨hall, (Except.ok.inj h).symm⟩
          · rintro ⟨-, rfl⟩
            rfl

theorem mem_located {files : List FileReport} {entry : Text × Diagnostic} :
    entry ∈ FileReport.located files ↔
      ∃ file ∈ files, ∃ d ∈ file.diagnostics, entry = (file.path, d) := by
  simp only [FileReport.located, List.mem_flatMap, List.mem_map, eq_comm]

theorem length_located (files : List FileReport) :
    (FileReport.located files).length = (files.map fun file => file.diagnostics.length).sum := by
  simp [FileReport.located, List.length_flatMap]

/-! ## A file that comes from two sources -/

/-- With a fresh cache a position is where the load of its file leads. -/
theorem ownPosition_empty (hmaps : options.sourceMaps = true) (path : Text) (d : Diagnostic) :
    ownPosition options disk Cache.empty path d =
      ((Resolver.load disk (Path.absolute disk.workingDirectory path)).outcome.bind fun found =>
        (Resolver.answer disk found (position disk path d)).1).map Resolution.position := by
  have hresult : (Resolver.lookup disk Cache.empty (position disk path d)).result =
      (Resolver.load disk (Path.absolute disk.workingDirectory path)).outcome.bind fun found =>
        (Resolver.answer disk found (position disk path d)).1 :=
    Resolver.result_lookup_empty _
  rw [ownPosition, if_pos hmaps, Resolver.resolve, Work.result_map_id, hresult]

theorem ownPosition_of_load {path : Text} {d : Diagnostic} {found : Option Entry}
    {outcome : Outcome} {p : Position} (hmaps : options.sourceMaps = true)
    (hload : (Resolver.load disk (Path.absolute disk.workingDirectory path)).outcome = .ok found)
    (hanswer : (Resolver.answer disk found (position disk path d)).1 = .ok ⟨outcome, p⟩) :
    ownPosition options disk Cache.empty path d = .ok p := by
  rw [ownPosition_empty hmaps, hload, Except.bind, hanswer]
  rfl

def splitMapText : Text :=
  "\x7b\"version\":3,\"sources\":[\"s\",\"t\"],\"mappings\":\"AAAA;ACAA\"\x7d"

def splitMap : SourceMap where
  file := .null
  sourceRoot := .str []
  names := []
  sources := [.str "s", .str "t"]
  lines := #[#[⟨1, 0, some ⟨0, 1, 0, none⟩⟩], #[⟨2, 0, some ⟨1, 1, 0, none⟩⟩]]

def splitDisk : Disk :=
  ⟨"/w", [
    ("/w/a.js", .bytes (Utf8.encode "x\n//# sourceMappingURL=a.map")),
    ("/w/a.map", .bytes (Utf8.encode splitMapText))], [], {}⟩

theorem ofText_splitMapText : SourceMap.ofText splitMapText = .ok splitMap := by
  have hguard : SourceMap.dropGuard splitMapText = splitMapText := rfl
  have hjson : Json.read splitMapText =
      .ok (.map [(.str "version", .int 3), (.str "sources", .list [.str "s", .str "t"]),
        (.str "mappings", .str "AAAA;ACAA")]) := rfl
  have hparse : Mappings.parse "AAAA;ACAA" =
      .ok [[⟨1, 0, some ⟨0, 1, 0, none⟩⟩], [⟨2, 0, some ⟨1, 1, 0, none⟩⟩]] := by decide +kernel
  rw [SourceMap.ofText, hguard, hjson]
  show SourceMap.ofFields _ "AAAA;ACAA" = _
  rw [SourceMap.ofFields_eq, hparse]
  rfl

theorem outcome_load_splitDisk :
    (Resolver.load splitDisk "/w/a.js").outcome =
      .ok (some (.external "/w/a.map" (some splitMap))) := by
  have hend : ∀ c, ("a.map".toList : Text).getLast? = some c → Text.isBlank c = false :=
    Text.isBlank_of_getLast? rfl (by decide)
  have hgenerated : splitDisk.file? "/w/a.js" =
      some (.bytes (Utf8.encode ("x".toList ++ '\n' :: Resolver.directive "a.map"))) := rfl
  have hmap : splitDisk.file? (Resolver.besides splitDisk "/w/a.js" "a.map") =
      some (.bytes (Utf8.encode splitMapText)) := rfl
  have hvalue := Resolver.directiveValue?_of_file? (by decide) (by decide) (by decide) hend
    hgenerated
  have htarget := Resolver.target_of_file? rfl rfl hmap
  rw [Disk.unixLineBreaks_of_not_mem (by decide)] at htarget
  exact Resolver.outcome_load_of_target hvalue htarget ofText_splitMapText

def firstFinding : Diagnostic := ⟨"p", 1, .int 1, .int 3, .null, false⟩

def secondFinding : Diagnostic := ⟨"q", 2, .int 2, .int 1, .null, false⟩

def sourceFinding : Diagnostic := ⟨"r", 1, .int 5, .int 5, .null, false⟩

theorem answer_splitDisk {line column : Int} {source path : Text}
    (horigin : splitMap.origin? (.int line) (.int column) .greatestLowerBound =
      .ok (some ⟨.str source, 1, 0, .null⟩))
    (hpath : Resolver.sourcePath splitDisk (.external "/w/a.map" (some splitMap)) (.str source) =
      .ok path) :
    (Resolver.answer splitDisk (some (.external "/w/a.map" (some splitMap)))
        ⟨"/w/a.js", .int line, .int column⟩).1 =
      .ok ⟨.found, ⟨path, .int 1, .int 0⟩⟩ := by
  rw [Resolver.answer_of_origin? rfl horigin hpath]

theorem ownPosition_firstFinding :
    ownPosition .standard splitDisk Cache.empty "a.js" firstFinding =
      .ok ⟨"/w/s", .int 1, .int 0⟩ := by
  have horigin : splitMap.origin? (.int 1) (.int 3) .greatestLowerBound =
      .ok (some ⟨.str "s", 1, 0, .null⟩) := by with_unfolding_all rfl
  exact ownPosition_of_load rfl outcome_load_splitDisk (answer_splitDisk horigin rfl)

theorem ownPosition_secondFinding :
    ownPosition .standard splitDisk Cache.empty "a.js" secondFinding =
      .ok ⟨"/w/t", .int 1, .int 0⟩ := by
  have horigin : splitMap.origin? (.int 2) (.int 1) .greatestLowerBound =
      .ok (some ⟨.str "t", 1, 0, .null⟩) := by with_unfolding_all rfl
  exact ownPosition_of_load rfl outcome_load_splitDisk (answer_splitDisk horigin rfl)

theorem ownPosition_sourceFinding :
    ownPosition .standard splitDisk Cache.empty "t" sourceFinding =
      .ok ⟨"/w/t", .int 5, .int 5⟩ := by
  have hmissing : (Resolver.load splitDisk "/w/t").outcome = .ok none := rfl
  exact ownPosition_of_load rfl hmissing rfl

/-! ## Conservation -/

/-- No diagnostic is lost, repeated or put out of order by grouping. Whatever has been looked up
before, if a report is grouped, then the group of a source holds the diagnostics that are resolved to
it on their own, in the order of the report, with nothing changed but line and column. The groups
stand in the order of their first diagnostic, none of them is empty, and together they have as many
diagnostics as the report. -/
theorem group_conserves {options : Options} {disk : Disk} {cache : Cache} {report : Value}
    {groups : Groups} (h : (group options disk cache report).result = .ok groups) :
    ∃ files, FileReport.ofReport report = .ok files ∧
      (∀ entry ∈ FileReport.located files,
        ∃ p, ownPosition options disk cache entry.1 entry.2 = .ok p) ∧
      (∀ source, (groups.lookup source).getD [] =
        (FileReport.located files).filterMap (ownDiagnostic? options disk cache source)) ∧
      groups.map Prod.fst =
        (ownSources options disk cache (FileReport.located files)).eraseDups ∧
      (∀ entry ∈ groups, entry.2 ≠ []) ∧
      (groups.map fun entry => entry.2.length).sum =
        (files.map fun file => file.diagnostics.length).sum := by
  obtain ⟨files, hfiles, hall, rfl⟩ := result_group_eq_ok_iff.mp h
  refine ⟨files, hfiles, hall, ?_, ?_, Groups.ne_nil_of_mem_ofList _, ?_⟩
  · intro source
    rw [Groups.lookup_ofList, List.filterMap_filterMap]
    congr 1
    funext entry
    unfold ownDiagnostic?
    cases ownPosition options disk cache entry.1 entry.2 <;> rfl
  · have hsources := Groups.sources_ofList ((FileReport.located files).filterMap fun entry =>
      (ownPosition options disk cache entry.1 entry.2).toOption.map (relocate entry.2))
    rw [sources_of_located] at hsources
    exact hsources
  · have hlength := Groups.length_diagnostics_ofList ((FileReport.located files).filterMap
      fun entry => (ownPosition options disk cache entry.1 entry.2).toOption.map (relocate entry.2))
    rw [Groups.diagnostics, List.length_flatMap] at hlength
    rw [hlength, ← length_located]
    refine List.filterMap_length_eq_length.mpr fun entry hentry => ?_
    obtain ⟨p, hp⟩ := hall entry hentry
    rw [hp]
    rfl

def splitFiles : List FileReport :=
  [⟨"a.js", [secondFinding, firstFinding]⟩, ⟨"t", [sourceFinding]⟩]

/-- A report on the generated file of `splitDisk` and on one of its sources. -/
def splitReport : Value :=
  .list [
    .map [(.str "filePath", .str "a.js"), (.str "messages", .list [
      .map [(.str "message", .str "q"), (.str "severity", .int 2), (.str "line", .int 2),
        (.str "column", .int 1)],
      .map [(.str "message", .str "p"), (.str "severity", .int 1), (.str "line", .int 1),
        (.str "column", .int 3)]])],
    .map [(.str "filePath", .str "t"), (.str "messages", .list [
      .map [(.str "message", .str "r"), (.str "severity", .int 1), (.str "line", .int 5),
        (.str "column", .int 5)]])]]

/-- The groups of `splitReport`: what was found on the second line of the generated file stands
together with what was found in the source that this line comes from. -/
def splitGroups : Groups := [
  ("/w/t", [{ secondFinding with line := .int 1, column := .int 0 }, sourceFinding]),
  ("/w/s", [{ firstFinding with line := .int 1, column := .int 0 }])]

theorem result_group_splitReport :
    (group .standard splitDisk Cache.empty splitReport).result = .ok splitGroups := by
  have hlocated : FileReport.located splitFiles = ([("a.js", secondFinding),
      ("a.js", firstFinding), ("t", sourceFinding)] : List (Text × Diagnostic)) := rfl
  refine result_group_eq_ok_iff.mpr ⟨splitFiles, rfl, ?_, ?_⟩
  · simp only [hlocated, List.forall_mem_cons, List.not_mem_nil, false_imp_iff, implies_true,
      and_true]
    exact ⟨⟨_, ownPosition_secondFinding⟩, ⟨_, ownPosition_firstFinding⟩,
      ⟨_, ownPosition_sourceFinding⟩⟩
  · simp only [hlocated, List.filterMap_cons, ownPosition_secondFinding, ownPosition_firstFinding,
      ownPosition_sourceFinding]
    rfl

theorem group_conserves_splitReport :
    (group .standard splitDisk Cache.empty splitReport).result = .ok splitGroups ∧
      (splitGroups.lookup ("/w/t" : Text)).getD [] = (FileReport.located splitFiles).filterMap
        (ownDiagnostic? .standard splitDisk Cache.empty "/w/t") ∧
      splitGroups.map Prod.fst = (["/w/t", "/w/s"] : List Text) ∧
      (splitGroups.map fun entry => entry.2.length).sum = 3 := by
  obtain ⟨files, hfiles, -, hlookup, -, -, hsum⟩ := group_conserves result_group_splitReport
  obtain rfl : splitFiles = files := Except.ok.inj hfiles
  exact ⟨result_group_splitReport, hlookup "/w/t", rfl, hsum⟩

end Report

end LintReport
