import LintReport.Proofs.Lint.Understood
import LintReport.Proofs.Report.Count

/-!
# Reports on several lists of files

A report is put together from parts that know nothing of each other: a block for each source, and a
tally. The reports on two lists of files without a common source are made of the same blocks as the
report on both lists together, where they stand in the order of their sources.
-/

namespace LintReport

namespace Report

variable {options : Options} {disk : Disk}

/-! ## Parts -/

/-- What a report is put together from: the blocks, each under its source, in the order in which they
stand, and the tally. -/
structure Parts where
  blocks : List (Text × Text)
  tally : Tally

/-- The text of the parts: nothing if nothing was found, and otherwise a line break, the blocks and
the line of the tally. -/
def Parts.text (painter : Painter) (parts : Parts) : Text :=
  if parts.tally.total = 0 then []
  else '\n' :: (parts.blocks.map Prod.snd).flatten ++ tallyText painter parts.tally

/-- The block of a group under the source of the group. -/
def blockOf (options : Options) (disk : Disk) (group : Text × List Diagnostic) :
    Except Fault (Text × Text) :=
  match displayPath options disk group.1 with
  | .error fault => .error fault
  | .ok header =>
    match block? ⟨options.colored⟩ header group.2 with
    | none => .error .numberTooLong
    | some block => .ok (group.1, block)

def partsOf (options : Options) (disk : Disk) (groups : Groups) : Except Fault Parts :=
  ((sorted groups).mapM (blockOf options disk)).map fun blocks =>
    ⟨blocks, Tally.ofList (Groups.diagnostics groups)⟩

/-- The parts of a report that is made without an earlier one. -/
def parts (options : Options) (disk : Disk) (report : Value) : Except Fault Parts :=
  (group options disk Cache.empty report).result.bind (partsOf options disk)

theorem blocks_eq_mapM (groups : Groups) :
    blocks ⟨options.colored⟩ (displayPath options disk) groups =
      (groups.mapM (blockOf options disk)).map (List.map Prod.snd) := by
  induction groups with
  | nil => rfl
  | cons group rest ih =>
      obtain ⟨source, ds⟩ := group
      rw [blocks, List.mapM_cons, blockOf]
      cases displayPath options disk source with
      | error fault => rfl
      | ok header =>
          dsimp only
          cases block? ⟨options.colored⟩ header ds with
          | none => rfl
          | some block =>
              dsimp only
              rw [ih]
              cases rest.mapM (blockOf options disk) <;> rfl

theorem render_eq_parts (groups : Groups) :
    render options disk groups =
      (partsOf options disk groups).map (Parts.text ⟨options.colored⟩) := by
  rw [render, tally_sorted, blocks_eq_mapM, partsOf]
  cases (sorted groups).mapM (blockOf options disk) <;> rfl

/-- A report is the text of its parts. -/
theorem result_format_eq_parts (report : Value) :
    (format options disk Cache.empty report).result =
      (parts options disk report).map (Parts.text ⟨options.colored⟩) := by
  rw [result_format_eq_bind, parts]
  cases (group options disk Cache.empty report).result with
  | error fault => rfl
  | ok groups => exact render_eq_parts groups

theorem result_format_of_parts {report : Value} {p : Parts}
    (h : parts options disk report = .ok p) :
    (format options disk Cache.empty report).result = .ok (p.text ⟨options.colored⟩) := by
  rw [result_format_eq_parts, h]
  rfl

theorem exists_parts_of_format {cache : Cache} {report : Value} {t : Text}
    (h : (format options disk cache report).result = .ok t) :
    ∃ groups p, (group options disk cache report).result = .ok groups ∧
      partsOf options disk groups = .ok p ∧ t = p.text ⟨options.colored⟩ := by
  rw [result_format_eq_bind] at h
  cases hgroups : (group options disk cache report).result with
  | error fault =>
      rw [hgroups] at h
      cases h
  | ok groups =>
      rw [hgroups, Except.bind, render_eq_parts] at h
      cases hparts : partsOf options disk groups with
      | error fault =>
          rw [hparts] at h
          cases h
      | ok p =>
          rw [hparts] at h
          exact ⟨groups, p, rfl, hparts, (Except.ok.inj h).symm⟩

/-! ## Blocks in their order -/

theorem source_of_blockOf {group : Text × List Diagnostic} {block : Text × Text}
    (h : blockOf options disk group = .ok block) : block.1 = group.1 := by
  unfold blockOf at h
  split at h
  · cases h
  · split at h
    · cases h
    · obtain rfl := Except.ok.inj h
      rfl

theorem sources_of_blocks {groups : Groups} {blocks : List (Text × Text)}
    (h : groups.mapM (blockOf options disk) = .ok blocks) :
    blocks.map Prod.fst = groups.map Prod.fst := by
  obtain ⟨hall, rfl⟩ := mapM_eq_ok_iff.mp h
  rw [List.map_filterMap, ← List.filterMap_eq_map']
  refine List.filterMap_congr fun group hgroup => ?_
  obtain ⟨block, hblock⟩ := hall group hgroup
  rw [hblock]
  exact congrArg some (source_of_blockOf hblock)

theorem partsOf_eq_of_perm {groups groups' : Groups} (h : groups.Perm groups')
    (hnodup : (groups.map Prod.fst).Nodup) :
    partsOf options disk groups = partsOf options disk groups' := by
  have htally : Tally.ofList groups.diagnostics = Tally.ofList groups'.diagnostics :=
    Tally.ofList_perm (h.flatMap_right Prod.snd)
  rw [partsOf, partsOf, sorted_eq_of_perm h hnodup, htally]

/-! ## Lists one after the other -/

theorem partsOf_eq_ok_iff {groups : Groups} {p : Parts} :
    partsOf options disk groups = .ok p ↔
      (sorted groups).mapM (blockOf options disk) = .ok p.blocks ∧
        p.tally = Tally.ofList groups.diagnostics := by
  unfold partsOf
  cases (sorted groups).mapM (blockOf options disk) with
  | error fault => simp [Except.map]
  | ok blocks =>
      obtain ⟨pBlocks, pTally⟩ := p
      simp only [Except.map, Except.ok.injEq, Parts.mk.injEq]
      exact and_congr_right fun _ => eq_comm

/-- The parts for groups of which those of two others are made up. -/
theorem partsOf_append {first second : Groups} {p q : Parts}
    (hp : partsOf options disk first = .ok p) (hq : partsOf options disk second = .ok q)
    (hnodup : ((first ++ second).map Prod.fst).Nodup) :
    ∃ r, partsOf options disk (first ++ second) = .ok r ∧
      r.blocks.Perm (p.blocks ++ q.blocks) ∧
      r.blocks.Pairwise (fun a b => Text.Precedes a.1 b.1) ∧
      r.tally = Tally.ofList (first.diagnostics ++ second.diagnostics) ∧
      p.tally = Tally.ofList first.diagnostics ∧ q.tally = Tally.ofList second.diagnostics := by
  obtain ⟨hpBlocks, hpTally⟩ := partsOf_eq_ok_iff.mp hp
  obtain ⟨hqBlocks, hqTally⟩ := partsOf_eq_ok_iff.mp hq
  obtain ⟨hpAll, hpEq⟩ := mapM_eq_ok_iff.mp hpBlocks
  obtain ⟨hqAll, hqEq⟩ := mapM_eq_ok_iff.mp hqBlocks
  have hall : ∀ group ∈ sorted (first ++ second), ∃ block, blockOf options disk group = .ok block := by
    intro group hgroup
    rcases List.mem_append.mp ((perm_sorted _).mem_iff.mp hgroup) with hmem | hmem
    · exact hpAll group ((perm_sorted first).mem_iff.mpr hmem)
    · exact hqAll group ((perm_sorted second).mem_iff.mpr hmem)
  have hblocks := mapM_eq_ok_iff.mpr ⟨hall, rfl⟩
  have htally : Tally.ofList (Groups.diagnostics (first ++ second)) =
      Tally.ofList (first.diagnostics ++ second.diagnostics) := by
    rw [Groups.diagnostics, List.flatMap_append]
    rfl
  refine ⟨⟨_, _⟩, partsOf_eq_ok_iff.mpr ⟨hblocks, rfl⟩, ?_, ?_, htally, hpTally, hqTally⟩
  · rw [hpEq, hqEq, ← List.filterMap_append]
    exact ((perm_sorted _).trans
      ((perm_sorted first).append (perm_sorted second)).symm).filterMap _
  · have hsorted := pairwise_sorted hnodup
    rw [← List.pairwise_map, ← sources_of_blocks hblocks] at hsorted
    exact List.pairwise_map.mp hsorted

section Append

variable {xs ys : List Value} {first second : List FileReport}

theorem result_group_append {gx gy : Groups}
    (hx : FileReport.ofReport (.list xs) = .ok first)
    (hy : FileReport.ofReport (.list ys) = .ok second)
    (hdisjoint : ∀ source ∈ ownSources options disk Cache.empty (FileReport.located first),
      source ∉ ownSources options disk Cache.empty (FileReport.located second))
    (hgx : (group options disk Cache.empty (.list xs)).result = .ok gx)
    (hgy : (group options disk Cache.empty (.list ys)).result = .ok gy) :
    (group options disk Cache.empty (.list (xs ++ ys))).result = .ok (gx ++ gy) ∧
      ((gx ++ gy).map Prod.fst).Nodup := by
  obtain ⟨files, hfiles, hallx, rfl⟩ := result_group_eq_ok_iff.mp hgx
  obtain rfl := Except.ok.inj (hx.symm.trans hfiles)
  obtain ⟨files, hfiles, hally, rfl⟩ := result_group_eq_ok_iff.mp hgy
  obtain rfl := Except.ok.inj (hy.symm.trans hfiles)
  have hlocated : FileReport.located (first ++ second) =
      FileReport.located first ++ FileReport.located second := List.flatMap_append
  rw [← sources_of_located, ← sources_of_located] at hdisjoint
  rw [← Groups.ofList_append hdisjoint, ← List.filterMap_append, ← hlocated]
  refine ⟨result_group_eq_ok_iff.mpr ⟨first ++ second, FileReport.ofValues_append hx hy, ?_, rfl⟩,
    Groups.nodup_sources_ofList _⟩
  rw [hlocated]
  intro entry hentry
  rcases List.mem_append.mp hentry with hmem | hmem
  · exact hallx entry hmem
  · exact hally entry hmem

/-- The reports on two lists of files whose diagnostics are resolved to different sources, each made
on its own, are independent of each other. Made of both lists, in either order, the report has the
blocks of both, each as it was, in the strict order of their sources; its tally has the sums of both,
and the emphasis of errors if one of them has it. -/
theorem format_append {t u : Text}
    (hx : FileReport.ofReport (.list xs) = .ok first)
    (hy : FileReport.ofReport (.list ys) = .ok second)
    (hdisjoint : ∀ source ∈ ownSources options disk Cache.empty (FileReport.located first),
      source ∉ ownSources options disk Cache.empty (FileReport.located second))
    (ht : (format options disk Cache.empty (.list xs)).result = .ok t)
    (hu : (format options disk Cache.empty (.list ys)).result = .ok u) :
    ∃ p q r : Parts, parts options disk (.list xs) = .ok p ∧ t = p.text ⟨options.colored⟩ ∧
      parts options disk (.list ys) = .ok q ∧ u = q.text ⟨options.colored⟩ ∧
      (format options disk Cache.empty (.list (xs ++ ys))).result =
        .ok (r.text ⟨options.colored⟩) ∧
      (format options disk Cache.empty (.list (ys ++ xs))).result =
        .ok (r.text ⟨options.colored⟩) ∧
      r.blocks.Perm (p.blocks ++ q.blocks) ∧
      r.blocks.Pairwise (fun a b => Text.Precedes a.1 b.1) ∧
      r.tally.total = p.tally.total + q.tally.total ∧
      r.tally.errors = p.tally.errors + q.tally.errors ∧
      r.tally.warnings = p.tally.warnings + q.tally.warnings ∧
      (r.tally.emphasis = "error" ↔ p.tally.emphasis = "error" ∨ q.tally.emphasis = "error") := by
  obtain ⟨gx, p, hgx, hp, hpText⟩ := exists_parts_of_format ht
  obtain ⟨gy, q, hgy, hq, hqText⟩ := exists_parts_of_format hu
  obtain ⟨hxy, hnodup⟩ := result_group_append hx hy hdisjoint hgx hgy
  obtain ⟨hyx, -⟩ := result_group_append hy hx (fun source hsource hmem =>
    hdisjoint source hmem hsource) hgy hgx
  obtain ⟨r, hr, hperm, hsorted, hrTally, hpTally, hqTally⟩ := partsOf_append hp hq hnodup
  refine ⟨p, q, r, ?_, hpText, ?_, hqText, ?_, ?_, hperm, hsorted, ?_⟩
  · rw [parts, hgx]
    exact hp
  · rw [parts, hgy]
    exact hq
  · refine result_format_of_parts ?_
    rw [parts, hxy]
    exact hr
  · refine result_format_of_parts ?_
    rw [parts, hyx]
    exact (partsOf_eq_of_perm List.perm_append_comm hnodup).symm.trans hr
  · rw [hrTally, hpTally, hqTally]
    exact ⟨Tally.total_append .., Tally.errors_append .., Tally.warnings_append ..,
      Tally.emphasis_append ..⟩

end Append

/-! ## Two lines of one generated file -/

def firstLine : Value :=
  .map [(.str "filePath", .str "a.js"), (.str "messages", .list [
    .map [(.str "message", .str "p"), (.str "severity", .int 1), (.str "line", .int 1),
      (.str "column", .int 3)]])]

def secondLine : Value :=
  .map [(.str "filePath", .str "a.js"), (.str "messages", .list [
    .map [(.str "message", .str "q"), (.str "severity", .int 2), (.str "line", .int 2),
      (.str "column", .int 1)]])]

theorem result_group_of_finding {file : Value} {path : Text} {d : Diagnostic} {p : Position}
    (hfile : FileReport.ofReport (.list [file]) = .ok [⟨path, [d]⟩])
    (hp : ownPosition options disk Cache.empty path d = .ok p) :
    (group options disk Cache.empty (.list [file])).result =
      .ok [(p.source, [{ d with line := p.line, column := p.column }])] := by
  have hlocated : FileReport.located [⟨path, [d]⟩] = [(path, d)] := rfl
  refine result_group_eq_ok_iff.mpr ⟨_, hfile, ?_, ?_⟩
  · rw [hlocated, List.forall_mem_singleton]
    exact ⟨p, hp⟩
  · simp only [hlocated, List.filterMap_cons, hp]
    rfl

def firstParts : Parts where
  blocks := [("/w/s",
    "\x1b[4ms\x1b[24m\n  \x1b[90m1:0\x1b[39m  \x1b[33mwarning\x1b[39m  p  \x1b[90m\x1b[39m\n\n")]
  tally := ⟨1, 0, 1, "warning"⟩

def secondParts : Parts where
  blocks := [("/w/t",
    "\x1b[4mt\x1b[24m\n  \x1b[90m1:0\x1b[39m  \x1b[31merror\x1b[39m  q  \x1b[90m\x1b[39m\n\n")]
  tally := ⟨1, 1, 0, "error"⟩

theorem format_append_lines :
    ∃ r : Parts,
      (format .standard splitDisk Cache.empty (.list ([firstLine] ++ [secondLine]))).result =
        .ok (r.text ⟨true⟩) ∧
      (format .standard splitDisk Cache.empty (.list ([secondLine] ++ [firstLine]))).result =
        .ok (r.text ⟨true⟩) ∧
      r.blocks.Perm (firstParts.blocks ++ secondParts.blocks) ∧
      r.blocks.Pairwise (fun a b => Text.Precedes a.1 b.1) ∧
      r.tally.total = 2 ∧ r.tally.emphasis = "error" := by
  have hx : FileReport.ofReport (.list [firstLine]) = .ok [⟨"a.js", [firstFinding]⟩] := rfl
  have hy : FileReport.ofReport (.list [secondLine]) = .ok [⟨"a.js", [secondFinding]⟩] := rfl
  have hp : parts .standard splitDisk (.list [firstLine]) = .ok firstParts := by
    rw [parts, result_group_of_finding hx ownPosition_firstFinding]
    with_unfolding_all rfl
  have hq : parts .standard splitDisk (.list [secondLine]) = .ok secondParts := by
    rw [parts, result_group_of_finding hy ownPosition_secondFinding]
    with_unfolding_all rfl
  have hxSources : ownSources .standard splitDisk Cache.empty
      (FileReport.located [⟨"a.js", [firstFinding]⟩]) = ["/w/s".toList] := by
    show ownSources .standard splitDisk Cache.empty [("a.js".toList, firstFinding)] = _
    rw [ownSources, List.filterMap_cons, ownPosition_firstFinding]
    rfl
  have hySources : ownSources .standard splitDisk Cache.empty
      (FileReport.located [⟨"a.js", [secondFinding]⟩]) = ["/w/t".toList] := by
    show ownSources .standard splitDisk Cache.empty [("a.js".toList, secondFinding)] = _
    rw [ownSources, List.filterMap_cons, ownPosition_secondFinding]
    rfl
  have hdisjoint : ∀ source ∈ ["/w/s".toList], source ∉ ["/w/t".toList] := by decide
  rw [← hxSources, ← hySources] at hdisjoint
  obtain ⟨p, q, r, hp', -, hq', -, hxy, hyx, hperm, hsorted, htotal, -, -, hemphasis⟩ :=
    format_append hx hy hdisjoint (result_format_of_parts hp) (result_format_of_parts hq)
  obtain rfl : firstParts = p := Except.ok.inj (hp.symm.trans hp')
  obtain rfl : secondParts = q := Except.ok.inj (hq.symm.trans hq')
  exact ⟨r, hxy, hyx, hperm, hsorted, htotal, hemphasis.mpr (Or.inr rfl)⟩

end Report

end LintReport
