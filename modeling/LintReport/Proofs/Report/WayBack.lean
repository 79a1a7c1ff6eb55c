import LintReport.Proofs.Report.Headers
import LintReport.Proofs.Resolver.Shape

/-!
# The way back from a header

A header is a path to be followed from the display directory. Whoever follows it from there comes
to the file that the block is about: the file that was reported, or the source that a map in a file
of its own names. Sources of inline maps are no files, so there is nothing for their headers to lead
to.
-/

namespace LintReport.Report

open LintReport.Path

variable {options : Options} {disk : Disk} {cache : Cache} {report : Value} {start source : Text}

/-! ## Diagnostics that stand under a file -/

/-- The path under which a diagnostic of a file stands, unless it is one of an inline map: that of
the file where positions are not taken back or this one leads nowhere, and otherwise that of the
source to which a map in a file of its own leads. -/
inductive FiledUnder (options : Options) (disk : Disk) (cache : Cache) (path : Text)
    (d : Diagnostic) : Text → Prop
  | asReported (hmaps : options.sourceMaps = false) :
      FiledUnder options disk cache path d (absolute disk.workingDirectory path)
  | unresolved {r : Resolution} (hmaps : options.sourceMaps = true)
      (hlookup : (Resolver.lookup disk cache (position disk path d)).result = .ok r)
      (houtcome : r.outcome ≠ .found) :
      FiledUnder options disk cache path d (absolute disk.workingDirectory path)
  | throughMap {r : Resolution} {file : Text} {sourceMap : Option SourceMap}
      (hmaps : options.sourceMaps = true)
      (hlookup : (Resolver.lookup disk cache (position disk path d)).result = .ok r)
      (houtcome : r.outcome = .found)
      (hentry : (Resolver.lookup disk cache (position disk path d)).cache.get?
        (position disk path d).source = some (.external file sourceMap)) :
      FiledUnder options disk cache path d r.position.source

section FiledUnder

variable {path : Text} {d : Diagnostic}

theorem FiledUnder.ownPosition (h : FiledUnder options disk cache path d source) :
    ∃ p, ownPosition options disk cache path d = .ok p ∧ p.source = source := by
  unfold Report.ownPosition
  cases h with
  | asReported hmaps =>
      rw [hmaps, if_neg Bool.false_ne_true]
      exact ⟨_, rfl, rfl⟩
  | unresolved hmaps hlookup houtcome =>
      rw [hmaps, if_pos rfl, Resolver.resolve, Work.result_map_id, hlookup]
      refine ⟨_, rfl, ?_⟩
      rw [Resolver.position_of_lookup hlookup houtcome]
      rfl
  | throughMap hmaps hlookup houtcome hentry =>
      rw [hmaps, if_pos rfl, Resolver.resolve, Work.result_map_id, hlookup]
      exact ⟨_, rfl, rfl⟩

theorem FiledUnder.isNormal (hdirectory : isAbsolute disk.workingDirectory = true)
    (h : FiledUnder options disk cache path d source) : IsNormal source := by
  cases h with
  | asReported hmaps => exact isNormal_absolute hdirectory path
  | unresolved hmaps hlookup houtcome => exact isNormal_absolute hdirectory path
  | throughMap hmaps hlookup houtcome hentry =>
      obtain ⟨found, hfound, hanswers⟩ := Resolver.exists_get?_of_found hlookup houtcome
      obtain rfl := Option.some.inj (hentry.symm.trans hfound)
      cases hanswers with
      | noMap hmap => cases houtcome
      | noMatch hmap horigin => cases houtcome
      | found hmap horigin hpath =>
          obtain ⟨url, -, hnames⟩ := Resolver.names_of_sourcePath hdirectory hmap hpath
          exact hnames.1

end FiledUnder

/-! ## Headers -/

/-- The header of a path is there, and it leads back from the display directory if the two have the
same root. -/
theorem exists_displayPath_leading_back (hdirectory : isAbsolute disk.workingDirectory = true)
    (hstart : displayStart? options disk = some start) (hsource : IsNormal source) :
    ∃ header, displayPath options disk source = .ok header ∧
      (absolute disk.workingDirectory (join (absolute disk.workingDirectory start) header) =
          source ↔
        (['/', '/'] <+: absolute disk.workingDirectory start ↔ ['/', '/'] <+: source)) := by
  have hway : relative? disk.workingDirectory source start = some _ := relative?_eq hsource.ne_nil
  have hsame : absolute disk.workingDirectory source = source := hsource.absolute_eq _
  have hback := absolute_join_relative_eq_iff hdirectory hway
  rw [hsame] at hback
  refine ⟨_, displayPath_eq hstart hsource.ne_nil, ?_⟩
  rw [place, place, hsame]
  exact hback

/-! ## Blocks -/

theorem mem_sources_of_ownPosition {files : List FileReport} {groups : Groups}
    {entry : Text × Diagnostic} {p : Position} (hfiles : FileReport.ofReport report = .ok files)
    (hgroups : (group options disk cache report).result = .ok groups)
    (hentry : entry ∈ FileReport.located files)
    (hp : ownPosition options disk cache entry.1 entry.2 = .ok p) :
    p.source ∈ groups.map Prod.fst := by
  obtain ⟨files', hfiles', -, rfl⟩ := result_group_eq_ok_iff.mp hgroups
  obtain rfl := Except.ok.inj (hfiles.symm.trans hfiles')
  rw [Groups.mem_sources_ofList, sources_of_located]
  refine List.mem_filterMap.mpr ⟨entry, hentry, ?_⟩
  rw [hp]
  rfl

theorem exists_block_of_mem {groups : Groups} {parts : Parts} {found : Text × List Diagnostic}
    (hparts : partsOf options disk groups = .ok parts) (hfound : found ∈ groups) :
    ∃ block ∈ parts.blocks, blockOf options disk found = .ok block := by
  obtain ⟨hblocks, -⟩ := partsOf_eq_ok_iff.mp hparts
  obtain ⟨hall, hblocksEq⟩ := mapM_eq_ok_iff.mp hblocks
  have hsorted : found ∈ sorted groups := (perm_sorted groups).mem_iff.mpr hfound
  obtain ⟨block, hblock⟩ := hall found hsorted
  refine ⟨block, ?_, hblock⟩
  rw [hblocksEq]
  exact List.mem_filterMap.mpr ⟨found, hsorted, by rw [hblock]; rfl⟩

/-- A source with a group has a block, and the block begins with the header of the source. -/
theorem exists_block_of_header {groups : Groups} {parts : Parts} {header : Text}
    (hparts : partsOf options disk groups = .ok parts) (hsource : source ∈ groups.map Prod.fst)
    (hheader : displayPath options disk source = .ok header) :
    ∃ table, (source, Painter.paint ⟨options.colored⟩ .underline header ++ '\n' :: table) ∈
      parts.blocks := by
  obtain ⟨found, hfound, rfl⟩ := List.mem_map.mp hsource
  obtain ⟨block, hmem, hblock⟩ := exists_block_of_mem hparts hfound
  obtain ⟨line, table, hline, htable⟩ := exists_headerLine_of_blockOf hblock
  rw [headerLine, hheader] at hline
  obtain rfl := Except.ok.inj hline
  refine ⟨table, ?_⟩
  rw [← source_of_blockOf hblock, ← htable]
  exact hmem

/-- Take a report of a linter and a display directory. The block of each path under which a
diagnostic stands has a header, and followed from the display directory the header leads back to the
path, exactly if both begin with two slashes or neither does. If the report is made, the block is in
it and begins with the header. The working directory is absolute, as every one is. -/
theorem header_leads_back {files : List FileReport}
    (hdirectory : isAbsolute disk.workingDirectory = true)
    (hstart : displayStart? options disk = some start)
    (hfiles : FileReport.ofReport report = .ok files) :
    ∀ file ∈ files, ∀ d ∈ file.diagnostics, ∀ source,
      FiledUnder options disk cache file.path d source →
        ∃ header, displayPath options disk source = .ok header ∧
          (absolute disk.workingDirectory (join (absolute disk.workingDirectory start) header) =
              source ↔
            (['/', '/'] <+: absolute disk.workingDirectory start ↔ ['/', '/'] <+: source)) ∧
          ∀ t, (format options disk cache report).result = .ok t →
            ∃ groups parts, (group options disk cache report).result = .ok groups ∧
              partsOf options disk groups = .ok parts ∧ t = parts.text ⟨options.colored⟩ ∧
              ∃ table,
                (source, Painter.paint ⟨options.colored⟩ .underline header ++ '\n' :: table) ∈
                  parts.blocks := by
  intro file hfile d hd source hsource
  obtain ⟨header, hheader, hback⟩ :=
    exists_displayPath_leading_back hdirectory hstart (hsource.isNormal hdirectory)
  obtain ⟨p, hp, rfl⟩ := hsource.ownPosition
  have hentry : (file.path, d) ∈ FileReport.located files :=
    mem_located.mpr ⟨file, hfile, d, hd, rfl⟩
  refine ⟨header, hheader, hback, fun t ht => ?_⟩
  obtain ⟨groups, parts, hgroups, hparts, htext⟩ := exists_parts_of_format ht
  have hgroup := mem_sources_of_ownPosition hfiles hgroups hentry hp
  exact ⟨groups, parts, hgroups, hparts, htext, exists_block_of_header hparts hgroup hheader⟩

def libParts : Parts where
  blocks := [("/w/s",
    "\x1b[4m../s\x1b[24m\n  \x1b[90m1:0\x1b[39m  \x1b[33mwarning\x1b[39m  p  \x1b[90m\x1b[39m\n\n")]
  tally := ⟨1, 0, 1, "warning"⟩

theorem filedUnder_firstFinding {options : Options} (hmaps : options.sourceMaps = true) :
    FiledUnder options splitDisk Cache.empty "a.js" firstFinding "/w/s" := by
  have horigin : splitMap.origin? (.int 1) (.int 3) .greatestLowerBound =
      .ok (some ⟨.str "s", 1, 0, .null⟩) := by with_unfolding_all rfl
  have hlookup : (Resolver.lookup splitDisk Cache.empty
      (position splitDisk "a.js" firstFinding)).result =
        .ok ⟨.found, ⟨"/w/s", .int 1, .int 0⟩⟩ := by
    have hload : (Resolver.load splitDisk (position splitDisk "a.js" firstFinding).source).outcome =
        .ok (some (.external "/w/a.map" (some splitMap))) := outcome_load_splitDisk
    rw [Resolver.result_lookup_empty, hload]
    exact answer_splitDisk horigin rfl
  have hentry : (Resolver.lookup splitDisk Cache.empty
      (position splitDisk "a.js" firstFinding)).cache.get?
        (position splitDisk "a.js" firstFinding).source =
          some (.external "/w/a.map" (some splitMap)) := by
    rw [Resolver.cache_lookup]
    apply Resolver.get?_of_result_entry
    rw [Resolver.result_entry_of_get?_none (Cache.get?_empty _)]
    exact outcome_load_splitDisk
  exact .throughMap hmaps hlookup rfl hentry

theorem header_leads_back_splitDisk :
    (∃ header, displayPath ⟨true, .str "src/../lib", true⟩ splitDisk "/w/s" = .ok header ∧
      absolute "/w" (join (absolute "/w" "src/../lib") header) = "/w/s".toList ∧
      ∃ groups parts, partsOf ⟨true, .str "src/../lib", true⟩ splitDisk groups = .ok parts ∧
        libParts.text ⟨true⟩ = parts.text ⟨true⟩ ∧
        ∃ table, ("/w/s".toList, Painter.paint ⟨true⟩ .underline header ++ '\n' :: table) ∈
          parts.blocks) ∧
      ∃ header, displayPath ⟨true, .str "src/../lib", false⟩ splitDisk "/w/a.js" = .ok header ∧
        absolute "/w" (join (absolute "/w" "src/../lib") header) = "/w/a.js".toList := by
  have hfiles : FileReport.ofReport (.list [firstLine]) = .ok [⟨"a.js", [firstFinding]⟩] := rfl
  have hown : ownPosition ⟨true, .str "src/../lib", true⟩ splitDisk Cache.empty "a.js"
      firstFinding = .ok ⟨"/w/s", .int 1, .int 0⟩ := ownPosition_firstFinding
  have hparts : parts ⟨true, .str "src/../lib", true⟩ splitDisk (.list [firstLine]) =
      .ok libParts := by
    rw [parts, result_group_of_finding hfiles hown]
    with_unfolding_all rfl
  have hmapped : FiledUnder ⟨true, .str "src/../lib", true⟩ splitDisk Cache.empty "a.js"
      firstFinding "/w/s" := filedUnder_firstFinding rfl
  have hreported : FiledUnder ⟨true, .str "src/../lib", false⟩ splitDisk Cache.empty "a.js"
      firstFinding "/w/a.js" := .asReported rfl
  constructor
  · obtain ⟨header, hheader, hback, hblock⟩ := header_leads_back rfl rfl hfiles _
      List.mem_cons_self _ List.mem_cons_self _ hmapped
    obtain ⟨groups, parts, -, hpartsOf, htext, htable⟩ := hblock _ (result_format_of_parts hparts)
    exact ⟨header, hheader, hback.mpr (by decide), groups, parts, hpartsOf, htext, htable⟩
  · obtain ⟨header, hheader, hback, -⟩ := header_leads_back rfl rfl hfiles _
      List.mem_cons_self _ List.mem_cons_self _ hreported
    exact ⟨header, hheader, hback.mpr (by decide)⟩

end LintReport.Report
