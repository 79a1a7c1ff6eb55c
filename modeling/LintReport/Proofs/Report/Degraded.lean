import LintReport.Proofs.Json.Nesting
import LintReport.Proofs.Report.Count
import LintReport.Proofs.Resolver.Spoiled
import LintReport.Proofs.SourceMap.Unusable

/-!
# Reports on files without usable maps

A generated file may lead to no usable map in many ways. As far as the report is concerned they are
all the same: it is the report that is made when no maps are looked for, and making it once more with
the cache that it leaves changes nothing. The exception is the text of a map that is nested too deep;
there is no report then.
-/

namespace LintReport

/-! ## Files without usable maps -/

namespace Resolver

/-- The ways in which a generated file leads to no usable map. A directive that is a URL with a bad
host is none of them. -/
inductive Mapless (disk : Disk) (generated : Text) : Prop where
  /-- The file is missing or a directory, or it may not be read or is no text. -/
  | unreadable {fault : Disk.Fault} (h : disk.read generated = .error fault)
  | undirected {t : Text} (hread : disk.read generated = .ok t) (h : Directive.find? t = none)
  /-- What stands inline is no base64, or encodes no text. -/
  | inlineUnreadable {value : Text} {fault : Directive.InlineFault}
      (hvalue : directiveValue? disk generated = some value)
      (hinline : Directive.isInline value = true) (h : Directive.inlineText value = .error fault)
  /-- The file that is named as a map is missing, may not be read or is no text. -/
  | mapUnreadable {value name : Text} {fault : Disk.Fault}
      (hvalue : directiveValue? disk generated = some value)
      (hinline : Directive.isInline value = false) (hname : Url.toPath value = .ok name)
      (h : disk.read (besides disk generated name) = .error fault)
  | unusable {value t : Text} {entry : Option SourceMap → Entry}
      (hvalue : directiveValue? disk generated = some value)
      (htarget : target disk generated value = .ok (entry, some t))
      (h : SourceMap.Unusable t disk.room.sourceMap)

/-- A generated file leads to the text of a map that is nested too deep. -/
def LeadsTooDeep (disk : Disk) (generated : Text) : Prop :=
  ∃ value entry t, directiveValue? disk generated = some value ∧
    target disk generated value = .ok (entry, some t) ∧
    Json.read (SourceMap.dropGuard t) disk.room.sourceMap = .error .tooDeep

variable {disk : Disk} {generated : Text}

theorem leadsTooDeep_iff {value t : Text} {entry : Option SourceMap → Entry}
    (hvalue : directiveValue? disk generated = some value)
    (htarget : target disk generated value = .ok (entry, some t)) :
    LeadsTooDeep disk generated ↔
      Json.read (SourceMap.dropGuard t) disk.room.sourceMap = .error .tooDeep := by
  constructor
  · rintro ⟨value', entry', t', hvalue', htarget', hdeep⟩
    obtain rfl := Option.some.inj (hvalue.symm.trans hvalue')
    obtain ⟨-, ht⟩ := Prod.mk.inj (Except.ok.inj (htarget.symm.trans htarget'))
    rw [Option.some.inj ht]
    exact hdeep
  · intro hdeep
    exact ⟨value, entry, t, hvalue, htarget, hdeep⟩

theorem not_leadsTooDeep_of_none (h : directiveValue? disk generated = none) :
    ¬ LeadsTooDeep disk generated := by
  rintro ⟨value, entry, t, hvalue, -⟩
  cases h.symm.trans hvalue

theorem outcome_load_of_leadsTooDeep (h : LeadsTooDeep disk generated) :
    (load disk generated).outcome = .error .tooDeep := by
  obtain ⟨value, entry, t, hvalue, htarget, hdeep⟩ := h
  have hmap : SourceMap.ofText t disk.room.sourceMap = .error .tooDeep := by
    rw [SourceMap.ofText, hdeep]
  rw [outcome_load_of_text hvalue htarget, parseMap, hmap]
  rfl

theorem Mapless.target (h : Mapless disk generated) {value : Text}
    (hvalue : directiveValue? disk generated = some value) :
    ∃ entry text, Resolver.target disk generated value = .ok (entry, text) ∧
      ∀ t, text = some t → SourceMap.Unusable t disk.room.sourceMap := by
  have hsame : ∀ other, directiveValue? disk generated = some other → other = value := by
    intro other hother
    exact Option.some.inj (hother.symm.trans hvalue)
  unfold Resolver.target
  cases h with
  | unreadable h =>
      rw [directiveValue?, h] at hvalue
      cases hvalue
  | undirected hread h =>
      rw [directiveValue?, hread] at hvalue
      cases h.symm.trans hvalue
  | inlineUnreadable hother hinline h =>
      obtain rfl := hsame _ hother
      rw [if_pos hinline, h]
      refine ⟨_, none, rfl, ?_⟩
      intro t ht
      cases ht
  | mapUnreadable hother hinline hname h =>
      obtain rfl := hsame _ hother
      rw [hinline, if_neg Bool.false_ne_true, hname]
      dsimp only
      rw [h]
      refine ⟨_, none, rfl, ?_⟩
      intro t ht
      cases ht
  | unusable hother htarget h =>
      obtain rfl := hsame _ hother
      refine ⟨_, _, htarget, ?_⟩
      intro t ht
      obtain rfl := Option.some.inj ht
      exact h

/-- A file without a usable map is loaded to an entry without a map or to no entry, unless the text
of the map is nested too deep. -/
theorem Mapless.outcome_load (h : Mapless disk generated) (hdeep : ¬ LeadsTooDeep disk generated) :
    ∃ found, (load disk generated).outcome = .ok found ∧ found.bind Entry.sourceMap? = none := by
  cases hload : (load disk generated).outcome with
  | error fault =>
      -- the fault would be that of a text, and the text is unusable and not too deep
      obtain ⟨value, hvalue, hfault⟩ := outcome_load_eq_error_iff.mp ⟨fault, hload⟩
      obtain ⟨entry, text, htarget, htext⟩ := h.target hvalue
      rcases hfault with hbad | ⟨entry', t, htarget', raised, hmap, hraised⟩
      · rw [htarget] at hbad
        cases hbad
      · rw [htarget] at htarget'
        obtain ⟨rfl, rfl⟩ := Prod.mk.inj (Except.ok.inj htarget')
        have hread : Json.read (SourceMap.dropGuard t) disk.room.sourceMap ≠ .error .tooDeep := by
          intro hread
          exact hdeep ⟨value, entry, t, hvalue, htarget, hread⟩
        obtain ⟨flaw, hflaw⟩ := (htext t rfl).ofText hread
        obtain rfl := Except.error.inj (hmap.symm.trans hflaw)
        cases hraised
  | ok found =>
      refine ⟨found, rfl, ?_⟩
      rcases found_of_outcome_load hload with hnone | ⟨value, entry, t, sourceMap, hvalue, htarget,
        hmap, -⟩
      · exact hnone
      · obtain ⟨entry', text, htarget', htext⟩ := h.target hvalue
        rw [htarget] at htarget'
        obtain ⟨rfl, rfl⟩ := Prod.mk.inj (Except.ok.inj htarget')
        exact absurd hmap ((htext t rfl).not_accepted sourceMap)

end Resolver

namespace Report

variable {options : Options} {disk : Disk} {cache : Cache} {report : Value}

/-! ## Reports that are made again -/

theorem ownPosition_locateAll (located : List (Text × Diagnostic)) (path : Text) (d : Diagnostic) :
    ownPosition options disk (locateAll options disk cache located).cache path d =
      ownPosition options disk cache path d := by
  induction located generalizing cache with
  | nil => rfl
  | cons entry rest ih =>
      obtain ⟨path', d'⟩ := entry
      rw [locateAll, Work.cache_andThen]
      split
      · exact ownPosition_locate path' d' path d
      · exact ih.trans (ownPosition_locate path' d' path d)

/-- What a report groups depends on where each diagnostic is on its own, and on nothing else. -/
theorem result_group_congr {options' : Options} {cache' : Cache}
    (h : ∀ files, FileReport.ofReport report = .ok files → ∀ entry ∈ FileReport.located files,
      ownPosition options disk cache entry.1 entry.2 =
        ownPosition options' disk cache' entry.1 entry.2) :
    (group options disk cache report).result = (group options' disk cache' report).result := by
  unfold group
  cases hfiles : FileReport.ofReport report with
  | error fault => rfl
  | ok files =>
      have hlocated : (locateAll options disk cache (FileReport.located files)).result =
          (locateAll options' disk cache' (FileReport.located files)).result := by
        rw [result_locateAll, result_locateAll]
        apply mapM_congr
        intro entry hentry
        rw [h files hfiles entry hentry]
      unfold groupFiles Work.map
      dsimp only
      rw [hlocated]

theorem cache_format (options : Options) (disk : Disk) (cache : Cache) (report : Value) :
    (format options disk cache report).cache = (group options disk cache report).cache := by
  unfold format
  rw [Work.cache_andThen]
  split <;> rfl

/-- A report that is made again with the cache that it left is the same report, or there is none for
the same reason. -/
theorem result_format_again (options : Options) (disk : Disk) (cache : Cache) (report : Value) :
    (format options disk (format options disk cache report).cache report).result =
      (format options disk cache report).result := by
  have hgroups : (group options disk (format options disk cache report).cache report).result =
      (group options disk cache report).result := by
    apply result_group_congr
    intro files hfiles entry _
    have hcache : (format options disk cache report).cache =
        (locateAll options disk cache (FileReport.located files)).cache := by
      rw [cache_format, group, hfiles]
      rfl
    rw [hcache]
    exact ownPosition_locateAll _ entry.1 entry.2
  rw [result_format_eq_bind, hgroups, ← result_format_eq_bind]

/-! ## Reports without maps -/

section Mapless

variable {path : Text} {d : Diagnostic}

theorem ownPosition_of_mapless
    (h : Resolver.Mapless disk (Path.absolute disk.workingDirectory path))
    (hdeep : ¬ Resolver.LeadsTooDeep disk (Path.absolute disk.workingDirectory path)) :
    ownPosition options disk Cache.empty path d = .ok (position disk path d) := by
  cases hmaps : options.sourceMaps with
  | false =>
      rw [ownPosition, hmaps]
      rfl
  | true =>
      obtain ⟨found, hload, hnone⟩ := h.outcome_load hdeep
      exact ownPosition_of_load hmaps hload (Resolver.answer_of_no_map hnone _)

theorem ownPosition_of_leadsTooDeep (hmaps : options.sourceMaps = true)
    (h : Resolver.LeadsTooDeep disk (Path.absolute disk.workingDirectory path)) :
    ownPosition options disk Cache.empty path d = .error .tooDeep := by
  rw [ownPosition_empty hmaps, Resolver.outcome_load_of_leadsTooDeep h]
  rfl

/-- A report one of whose diagnostics is in a file that leads to a text nested too deep is not made,
if no other file can be the reason. -/
theorem result_group_of_leadsTooDeep {files : List FileReport} (hmaps : options.sourceMaps = true)
    (hfiles : FileReport.ofReport report = .ok files)
    (hmapless : ∀ entry ∈ FileReport.located files,
      Resolver.Mapless disk (Path.absolute disk.workingDirectory entry.1))
    {entry : Text × Diagnostic} (hentry : entry ∈ FileReport.located files)
    (hdeep : Resolver.LeadsTooDeep disk (Path.absolute disk.workingDirectory entry.1)) :
    (group options disk Cache.empty report).result = .error (.resolver .tooDeep) := by
  have hlocated : (locateAll options disk Cache.empty (FileReport.located files)).result =
      .error .tooDeep := by
    rw [result_locateAll]
    cases hall : (FileReport.located files).mapM fun entry =>
        (ownPosition options disk Cache.empty entry.1 entry.2).map (relocate entry.2) with
    | ok found =>
        obtain ⟨q, hq⟩ := (mapM_eq_ok_iff.mp hall).1 entry hentry
        rw [ownPosition_of_leadsTooDeep hmaps hdeep] at hq
        cases hq
    | error fault =>
        -- whichever diagnostic it is that fails first, its file leads too deep
        obtain ⟨before, first, after, hsplit, -, hfirst⟩ := mapM_eq_error_iff.mp hall
        have hmem : first ∈ FileReport.located files := by
          rw [hsplit]
          exact List.mem_append_right before List.mem_cons_self
        by_cases hfirstDeep :
            Resolver.LeadsTooDeep disk (Path.absolute disk.workingDirectory first.1)
        · rw [ownPosition_of_leadsTooDeep hmaps hfirstDeep] at hfirst
          obtain rfl := Except.error.inj hfirst
          rfl
        · rw [ownPosition_of_mapless (hmapless first hmem) hfirstDeep] at hfirst
          cases hfirst
  unfold group groupFiles Work.map
  rw [hfiles]
  dsimp only
  rw [hlocated]
  rfl

end Mapless

/-- Take a report in which no file leads to a usable map, in whatever ways, and make it with a fresh
cache. Unless a diagnostic is in a file that leads to a text nested too deep, the report that looks
for maps is the report that looks for none, or neither is made for the same reason; otherwise the
former is not made. In any case it is the same again with the cache that it left. -/
theorem format_mapless {options : Options} {disk : Disk} {report : Value}
    (hmapless : ∀ files, FileReport.ofReport report = .ok files → ∀ file ∈ files,
      Resolver.Mapless disk (Path.absolute disk.workingDirectory file.path)) :
    let mapped := format { options with sourceMaps := true } disk Cache.empty report
    let plain := format { options with sourceMaps := false } disk Cache.empty report
    let deep := ∃ files, FileReport.ofReport report = .ok files ∧
      ∃ file ∈ files, file.diagnostics ≠ [] ∧
        Resolver.LeadsTooDeep disk (Path.absolute disk.workingDirectory file.path)
    (¬ deep → mapped.result = plain.result) ∧
      (deep → mapped.result = .error (.resolver .tooDeep)) ∧
      (format { options with sourceMaps := true } disk mapped.cache report).result =
        mapped.result := by
  intro mapped plain deep
  have hlocated : ∀ files, FileReport.ofReport report = .ok files →
      ∀ entry ∈ FileReport.located files,
        Resolver.Mapless disk (Path.absolute disk.workingDirectory entry.1) := by
    intro files hfiles entry hentry
    obtain ⟨file, hfile, d, -, rfl⟩ := mem_located.mp hentry
    exact hmapless files hfiles file hfile
  refine ⟨?_, ?_, result_format_again _ disk Cache.empty report⟩
  · intro hdeep
    have hgroups : (group { options with sourceMaps := true } disk Cache.empty report).result =
        (group { options with sourceMaps := false } disk Cache.empty report).result := by
      apply result_group_congr
      intro files hfiles entry hentry
      obtain ⟨file, hfile, d, hd, rfl⟩ := mem_located.mp hentry
      have hnotDeep :
          ¬ Resolver.LeadsTooDeep disk (Path.absolute disk.workingDirectory file.path) := by
        intro hfileDeep
        exact hdeep ⟨files, hfiles, file, hfile, List.ne_nil_of_mem hd, hfileDeep⟩
      rw [ownPosition_of_mapless (hmapless files hfiles file hfile) hnotDeep,
        ownPosition_of_mapless (hmapless files hfiles file hfile) hnotDeep]
    show (format _ disk Cache.empty report).result = (format _ disk Cache.empty report).result
    rw [result_format_eq_bind, result_format_eq_bind, hgroups]
    rfl
  · rintro ⟨files, hfiles, file, hfile, hne, hdeep⟩
    obtain ⟨d, hd⟩ := List.exists_mem_of_ne_nil _ hne
    have hgroups : (group { options with sourceMaps := true } disk Cache.empty report).result =
        .error (.resolver .tooDeep) :=
      result_group_of_leadsTooDeep rfl hfiles (hlocated files hfiles)
        (mem_located.mpr ⟨file, hfile, d, hd, rfl⟩) hdeep
    show (format _ disk Cache.empty report).result = _
    rw [result_format_eq_bind, hgroups]
    rfl

/-- A file with one problem on its first line, as a linter reports it. -/
def fileWithProblem (path : Text) : Value :=
  .map [(.str "filePath", .str path), (.str "messages", .list [
    .map [(.str "message", .str "m"), (.str "severity", .int 1), (.str "line", .int 1),
      (.str "column", .int 0)]])]

def problem : Diagnostic := ⟨"m", 1, .int 1, .int 0, .null, false⟩

def maplessDisk : Disk :=
  ⟨"/w", [
    ("/w/denied.js", .denied),
    ("/w/plain.js", .bytes (Utf8.encode "x")),
    ("/w/old.js", .bytes (Utf8.encode ("x".toList ++ '\n' :: Resolver.directive "old.map"))),
    ("/w/old.map", .bytes (Utf8.encode "\x7b\"version\":2\x7d"))], [], {}⟩

def maplessReport : Value :=
  .list [fileWithProblem "missing.js", fileWithProblem "denied.js", fileWithProblem "plain.js",
    fileWithProblem "old.js"]

theorem mapless_maplessDisk :
    ∀ file ∈ ["/w/missing.js".toList, "/w/denied.js".toList, "/w/plain.js".toList,
        "/w/old.js".toList],
      Resolver.Mapless maplessDisk file ∧ ¬ Resolver.LeadsTooDeep maplessDisk file := by
  have hplain : Directive.find? "x" = none := by decide +kernel
  have hbytes : maplessDisk.file? "/w/plain.js" = some (.bytes (Utf8.encode "x")) := rfl
  have hread := Disk.read_of_file?_encode hbytes
  rw [Disk.unixLineBreaks_of_not_mem (by decide)] at hread
  have hend : ∀ c, ("old.map".toList : Text).getLast? = some c → Text.isBlank c = false :=
    Text.isBlank_of_getLast? rfl (by decide)
  have hfile : maplessDisk.file? "/w/old.js" = some (.bytes (Utf8.encode
      ("x".toList ++ '\n' :: Resolver.directive "old.map"))) := rfl
  have hmap : maplessDisk.file? (Resolver.besides maplessDisk "/w/old.js" "old.map") =
      some (.bytes (Utf8.encode "\x7b\"version\":2\x7d")) := rfl
  have hvalue := Resolver.directiveValue?_of_file? (by decide) (by decide) (by decide) hend hfile
  have htarget := Resolver.target_of_file? rfl rfl hmap
  rw [Disk.unixLineBreaks_of_not_mem (by decide)] at htarget
  have hjson : Json.read (SourceMap.dropGuard "\x7b\"version\":2\x7d")
      maplessDisk.room.sourceMap = .ok (.map [(.str "version", .int 2)]) := rfl
  simp only [List.forall_mem_cons]
  refine ⟨⟨.unreadable rfl, Resolver.not_leadsTooDeep_of_none rfl⟩,
    ⟨.unreadable rfl, Resolver.not_leadsTooDeep_of_none rfl⟩,
    ⟨.undirected hread hplain, Resolver.not_leadsTooDeep_of_none ?_⟩,
    ⟨.unusable hvalue htarget (.version hjson rfl), ?_⟩, by simp⟩
  · rw [Resolver.directiveValue?, hread]
    exact hplain
  · rw [Resolver.leadsTooDeep_iff hvalue htarget, hjson]
    intro hdeep
    cases hdeep

theorem format_mapless_maplessDisk :
    let mapped := format ⟨false, .null, true⟩ maplessDisk Cache.empty maplessReport
    mapped.result = .ok
        ("\ndenied.js\n  1:0  warning  m\n\nmissing.js\n  1:0  warning  m\n\n" ++
          "old.js\n  1:0  warning  m\n\nplain.js\n  1:0  warning  m\n\n" ++
          "✖ 4 problems (0 errors, 4 warnings)\n").toList ∧
      (format ⟨false, .null, true⟩ maplessDisk mapped.cache maplessReport).result =
        mapped.result := by
  intro mapped
  have hfiles : FileReport.ofReport maplessReport = .ok [⟨"missing.js", [problem]⟩,
      ⟨"denied.js", [problem]⟩, ⟨"plain.js", [problem]⟩, ⟨"old.js", [problem]⟩] := rfl
  have hboth : ∀ files, FileReport.ofReport maplessReport = .ok files → ∀ file ∈ files,
      Resolver.Mapless maplessDisk (Path.absolute maplessDisk.workingDirectory file.path) ∧
        ¬ Resolver.LeadsTooDeep maplessDisk
          (Path.absolute maplessDisk.workingDirectory file.path) := by
    intro files hread file hfile
    obtain rfl := Except.ok.inj (hfiles.symm.trans hread)
    exact mapless_maplessDisk _ (List.mem_map_of_mem (f := fun file =>
      Path.absolute maplessDisk.workingDirectory file.path) hfile)
  obtain ⟨hsame, -, hagain⟩ := @format_mapless ⟨false, .null, true⟩ maplessDisk maplessReport
    fun files hread file hfile => (hboth files hread file hfile).1
  have hplain : (format ⟨false, .null, false⟩ maplessDisk Cache.empty maplessReport).result = .ok
      ("\ndenied.js\n  1:0  warning  m\n\nmissing.js\n  1:0  warning  m\n\n" ++
        "old.js\n  1:0  warning  m\n\nplain.js\n  1:0  warning  m\n\n" ++
        "✖ 4 problems (0 errors, 4 warnings)\n").toList := by
    have hgroups : (group ⟨false, .null, false⟩ maplessDisk Cache.empty maplessReport).result =
        .ok ((["/w/missing.js", "/w/denied.js", "/w/plain.js", "/w/old.js"] : List Text).map
          fun source => (source, [problem])) := by
      with_unfolding_all rfl
    have hperm : (["/w/missing.js", "/w/denied.js", "/w/plain.js", "/w/old.js"] : List Text).Perm
        ["/w/denied.js", "/w/missing.js", "/w/old.js", "/w/plain.js"] := by decide
    rw [result_format_eq_bind, hgroups, Except.bind, render,
      sorted_eq_of_pairwise (hperm.map _) (by decide)]
    decide +kernel
  refine ⟨(hsame ?_).trans hplain, hagain⟩
  rintro ⟨files, hread, file, hfile, -, hdeep⟩
  exact (hboth files hread file hfile).2 hdeep

def bracketDisk : Disk :=
  ⟨"/work", [
    ("/work/a.js", .bytes (Utf8.encode ("x".toList ++ '\n' :: Resolver.directive "a.map"))),
    ("/work/a.map", .bytes (Utf8.encode (List.replicate 2000 '[')))], [], {}⟩

/-- The text of a map that is not JSON can be nested too deep. -/
theorem format_bracketDisk :
    let report := Value.list [fileWithProblem "a.js"]
    Resolver.Mapless bracketDisk "/work/a.js" ∧
      (format ⟨false, .null, true⟩ bracketDisk Cache.empty report).result =
        .error (.resolver .tooDeep) ∧
      (format ⟨false, .null, false⟩ bracketDisk Cache.empty report).result =
        .ok "\na.js\n  1:0  warning  m\n\n✖ 1 problem (0 errors, 1 warning)\n" := by
  intro report
  have hend : ∀ c, ("a.map".toList : Text).getLast? = some c → Text.isBlank c = false :=
    Text.isBlank_of_getLast? rfl (by decide)
  have hfile : bracketDisk.file? "/work/a.js" = some (.bytes (Utf8.encode
      ("x".toList ++ '\n' :: Resolver.directive "a.map"))) := rfl
  have hmap : bracketDisk.file? (Resolver.besides bracketDisk "/work/a.js" "a.map") =
      some (.bytes (Utf8.encode (List.replicate 2000 '['))) := rfl
  have hreturn : '\r' ∉ List.replicate 2000 '[' := by
    intro hmem
    exact absurd (List.eq_of_mem_replicate hmem) (by decide)
  have hvalue := Resolver.directiveValue?_of_file? (by decide) (by decide) (by decide) hend hfile
  have htarget := Resolver.target_of_file? rfl rfl hmap
  rw [Disk.unixLineBreaks_of_not_mem hreturn] at htarget
  have hcount : 2000 = bracketDisk.room.sourceMap + 1 + 1009 := rfl
  have hguard : SourceMap.dropGuard (List.replicate 2000 '[') = List.replicate 2000 '[' := rfl
  have hjson : Json.read (SourceMap.dropGuard (List.replicate 2000 '['))
      bracketDisk.room.sourceMap = .error .tooDeep := by
    rw [hguard, hcount, ← List.replicate_append_replicate]
    exact Json.read_of_brackets _ _
  have hmapless : Resolver.Mapless bracketDisk "/work/a.js" := by
    refine .unusable hvalue htarget (.notJson ?_)
    intro v hv
    rw [hjson] at hv
    cases hv
  have hdeep := (Resolver.leadsTooDeep_iff hvalue htarget).mpr hjson
  have hgroups : (group ⟨false, .null, true⟩ bracketDisk Cache.empty report).result =
      .error (.resolver .tooDeep) := by
    have hfiles : FileReport.ofReport report = .ok [⟨"a.js", [problem]⟩] := rfl
    have hlocated : FileReport.located [⟨"a.js", [problem]⟩] = [("a.js".toList, problem)] := rfl
    refine result_group_of_leadsTooDeep rfl hfiles ?_ List.mem_cons_self hdeep
    rw [hlocated, List.forall_mem_singleton]
    exact hmapless
  refine ⟨hmapless, ?_, by decide +kernel⟩
  rw [result_format_eq_bind, hgroups]
  rfl

end Report

end LintReport
