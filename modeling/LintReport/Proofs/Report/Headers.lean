import LintReport.Proofs.Path.Relative
import LintReport.Proofs.Report.Merge
import LintReport.Proofs.Resolver.Placement
import Mathlib.Data.List.Nodup

/-!
# The headers of a report

The block of a source stands under the path of the source, relative to the display directory. A
header tells where its source lies and nothing else. For files this is enough, since different files
lie in different places. A source of an inline map lies nowhere; it is shown as if the beginning of
the data URL, with the source behind it, were a path below the working directory. Steps up in the
source can lead out of there, and then its header may be that of a file.
-/

namespace LintReport

/-! ## Sources of inline maps as paths -/

namespace InlineSource

open LintReport.Path

/-- The folder below the working directory that the beginning of the data URL seems to name. -/
def folder : Text := "data:application"

/-- What the beginning of the data URL has behind this folder. -/
def lead : Text := "json;base64,"

/-- The parts of a source behind the first, with its dots resolved as far as they can be without
knowing what lies above. -/
def below (s : Text) : List Text :=
  resolveParts false [] (Text.split '/' s).tail

/-- The source with its dots resolved. Dots in its first part are none, since the beginning of the
data URL stands before them. -/
def settled (s : Text) : Text :=
  Text.join ['/'] ((Text.split '/' s).headD [] :: below s)

/-- The source does not lead out of its first part. -/
def Stays (s : Text) : Prop :=
  up ∉ below s

instance (s : Text) : Decidable (Stays s) :=
  inferInstanceAs (Decidable (up ∉ below s))

/-- The names on the way from the working directory to the source. -/
def path (s : Text) : List Text :=
  folder :: (lead ++ (Text.split '/' s).headD []) :: below s

variable {s t : Text}

theorem inline_ne_nil (s : Text) : Directive.inlineStart ++ s ≠ [] :=
  nofun

theorem split_inline (s : Text) :
    Text.split '/' (Directive.inlineStart ++ s) =
      [folder, lead ++ (Text.split '/' s).headD []] ++ (Text.split '/' s).tail := by
  obtain ⟨first, rest, hsplit⟩ := List.exists_cons_of_ne_nil (Text.split_ne_nil '/' s)
  have hstart : Directive.inlineStart ++ s = folder ++ '/' :: (lead ++ s) := rfl
  rw [hstart, Text.split_append_cons (by decide), Text.split_append_of_not_mem (by decide) hsplit,
    hsplit]
  rfl

theorem isName_of_mem_front {part : Text}
    (h : part ∈ [folder, lead ++ (Text.split '/' s).headD []]) : IsName part := by
  obtain ⟨first, rest, hsplit⟩ := List.exists_cons_of_ne_nil (Text.split_ne_nil '/' s)
  rw [hsplit, List.headD_cons, List.mem_pair] at h
  rcases h with rfl | rfl
  · exact ⟨by decide, by decide, by decide, by decide⟩
  · have hslash : '/' ∉ lead := by decide
    have hfirst : '/' ∉ first := Text.not_mem_of_mem_split (hsplit ▸ List.mem_cons_self)
    refine ⟨nofun, ?_, ?_, by simp [hslash, hfirst]⟩
    · exact fun h => absurd (List.cons.inj h).1 (by decide)
    · exact fun h => absurd (List.cons.inj h).1 (by decide)

theorem isName_of_mem_below (hs : Stays s) {part : Text} (h : part ∈ below s) : IsName part := by
  have hrooted : resolveParts true [] (Text.split '/' s).tail = below s :=
    resolveParts_of_not_mem_up hs []
  rw [← hrooted] at h
  refine isName_of_mem_resolveParts (by simp) (fun rest hrest => ?_) part h
  exact Text.not_mem_of_mem_split (List.mem_of_mem_tail hrest)

theorem isName_of_mem_path (hs : Stays s) {part : Text} (h : part ∈ path s) : IsName part := by
  have hpath : path s = [folder, lead ++ (Text.split '/' s).headD []] ++ below s := rfl
  rw [hpath, List.mem_append] at h
  exact h.elim isName_of_mem_front (isName_of_mem_below hs)

/-- Behind the beginning of the data URL a settled source is a path with these names. -/
theorem inlineStart_append_settled (s : Text) :
    Directive.inlineStart ++ settled s = Text.join ['/'] (path s) := by
  have hstart : Directive.inlineStart = folder ++ ['/'] ++ lead := rfl
  have hlead (first : Text) (rest : List Text) :
      lead ++ Text.join ['/'] (first :: rest) = Text.join ['/'] ((lead ++ first) :: rest) := by
    cases rest with
    | nil => rfl
    | cons next rest => simp only [Text.join, List.append_assoc]
  rw [hstart, List.append_assoc, settled, hlead]
  rfl

theorem names_settled (hs : Stays s) : names (Directive.inlineStart ++ settled s) = path s := by
  rw [inlineStart_append_settled]
  exact names_join fun _ => isName_of_mem_path hs

theorem path_eq_iff (hs : Stays s) (ht : Stays t) : path s = path t ↔ settled s = settled t := by
  constructor
  · intro h
    rw [← List.append_cancel_left_eq Directive.inlineStart, inlineStart_append_settled, h,
      inlineStart_append_settled]
  · intro h
    rw [← names_settled hs, ← names_settled ht, h]

end InlineSource

namespace Report

open LintReport.Path Directive InlineSource

variable {options : Options} {disk : Disk} {start source other s : Text}

/-! ## Headers and places -/

/-- The line above the table of a source, as it is painted. -/
def headerLine (options : Options) (disk : Disk) (source : Text) : Except Fault Text :=
  (displayPath options disk source).map (Painter.paint ⟨options.colored⟩ .underline)

/-- Where a path leads: the names on the way there from the root. -/
def place (disk : Disk) (p : Text) : List Text :=
  names (absolute disk.workingDirectory p)

theorem paint_inj {painter : Painter} {p : Paint} {t u : Text} :
    painter.paint p t = painter.paint p u ↔ t = u := by
  unfold Painter.paint
  split
  · rw [List.append_cancel_right_eq, List.append_cancel_left_eq]
  · rfl

theorem displayPath_eq (hstart : displayStart? options disk = some start) (hsource : source ≠ []) :
    displayPath options disk source =
      .ok (wayText (way (place disk start) (place disk source))) := by
  rw [displayPath, if_neg hsource, hstart]
  dsimp only
  rw [relative?_eq hsource]
  rfl

theorem headerLine_eq_iff (hdirectory : isAbsolute disk.workingDirectory = true)
    (hstart : displayStart? options disk = some start) (hsource : source ≠ [])
    (hother : other ≠ []) :
    headerLine options disk source = headerLine options disk other ↔
      place disk source = place disk other := by
  have hrelative : relative? disk.workingDirectory source start =
      relative? disk.workingDirectory other start ↔ place disk source = place disk other :=
    relative?_eq_iff hdirectory hsource hother
  rw [relative?_eq hsource, relative?_eq hother, Option.some_inj] at hrelative
  rw [headerLine, headerLine, displayPath_eq hstart hsource, displayPath_eq hstart hother]
  simp only [Except.map, Except.ok.injEq, paint_inj]
  exact hrelative

/-- A source of an inline map that stays where it is lies below the working directory. -/
theorem place_inline (hdirectory : isAbsolute disk.workingDirectory = true) (hs : Stays s) :
    place disk (inlineStart ++ s) = place disk disk.workingDirectory ++ path s := by
  have hne : disk.workingDirectory ≠ [] := by
    intro hnil
    rw [hnil] at hdirectory
    cases hdirectory
  have hrelative : isAbsolute (inlineStart ++ s) = false := rfl
  rw [place, place, names_absolute hdirectory, names_absolute hdirectory,
    join_of_isAbsolute hdirectory, join_of_relative hrelative, resolved_asDirectory_append hne,
    split_inline, resolveParts_append, resolveParts_names fun _ => isName_of_mem_front,
    List.reverse_reverse, resolveParts_of_not_mem_up hs, List.reverse_reverse, List.append_assoc]
  rfl

theorem place_of_isFilePath {p : Text} (h : IsFilePath p) : place disk p = names p := by
  rw [place, h.absolute_eq]

/-- Unless the display directory lies below the folder, the header of such a source ends in the
beginning of the data URL with the settled source behind it. -/
theorem suffix_displayPath_inline (hdirectory : isAbsolute disk.workingDirectory = true)
    (hstart : displayStart? options disk = some start) (hs : Stays s)
    (houtside : ¬ place disk disk.workingDirectory ++ [folder] <+: place disk start) :
    ∃ shown, displayPath options disk (inlineStart ++ s) = .ok shown ∧
      inlineStart ++ settled s <:+ shown := by
  have hne : path s ≠ [] := List.cons_ne_nil _ _
  obtain ⟨before, hway⟩ : ∃ before, way (place disk start)
      (place disk disk.workingDirectory ++ path s) = before ++ path s :=
    way_append_of_not_prefix houtside
  refine ⟨_, displayPath_eq hstart (inline_ne_nil s), ?_⟩
  rw [place_inline hdirectory hs, hway, inlineStart_append_settled,
    wayText_of_ne_nil (List.append_ne_nil_of_right_ne_nil before hne)]
  exact Text.join_suffix hne before

/-- Seen from the working directory it is nothing but that. -/
theorem displayPath_inline (hdirectory : isAbsolute disk.workingDirectory = true)
    (hstart : displayStart? options disk = some start) (hs : Stays s)
    (hplace : place disk start = place disk disk.workingDirectory) :
    displayPath options disk (inlineStart ++ s) = .ok (inlineStart ++ settled s) := by
  have hne : path s ≠ [] := List.cons_ne_nil _ _
  rw [displayPath_eq hstart (inline_ne_nil s), place_inline hdirectory hs, hplace,
    way_append_self, wayText_of_ne_nil hne, inlineStart_append_settled]

/-! ## The headers of one report -/

/-- The block of a group begins with the header line of its source. -/
theorem exists_headerLine_of_blockOf {group : Text × List Diagnostic} {block : Text × Text}
    (h : blockOf options disk group = .ok block) :
    ∃ line table, headerLine options disk group.1 = .ok line ∧ block.2 = line ++ '\n' :: table := by
  unfold blockOf at h
  unfold headerLine
  split at h
  · cases h
  · next header hheader =>
      split at h
      · cases h
      · next written hwritten =>
          obtain ⟨table, -, rfl⟩ := Option.map_eq_some_iff.mp hwritten
          obtain rfl := Except.ok.inj h
          refine ⟨_, table ++ ['\n', '\n'], congrArg (Except.map _) hheader, ?_⟩
          simp only [List.append_assoc, List.cons_append, List.nil_append]

theorem nodup_sources_of_group {cache : Cache} {report : Value} {groups : Groups}
    (h : (group options disk cache report).result = .ok groups) :
    (groups.map Prod.fst).Nodup := by
  obtain ⟨files, -, -, rfl⟩ := result_group_eq_ok_iff.mp h
  exact Groups.nodup_sources_ofList _

/-- Take a report whose sources are files and sources of inline maps, and a display directory. Every
group has a header line, and two groups have the same one if and only if their sources lie in the
same place, as paths taken against the working directory. So groups of files never share a header
line. A source of an inline map that does not lead out of its first part shares it with a file only
if that file lies where the settled source does, below the working directory, and with another such
source only if both settle to the same. Unless the display directory lies in the folder that the data
URL seems to name, its header ends in the beginning of the data URL with the settled source behind
it, and seen from the working directory it is nothing else. -/
theorem headerLine_group {cache : Cache} {report : Value} {groups : Groups}
    (hdirectory : isAbsolute disk.workingDirectory = true)
    (hstart : displayStart? options disk = some start)
    (hgroups : (group options disk cache report).result = .ok groups)
    (hsources : ∀ a ∈ groups, IsFilePath a.1 ∨ ∃ s, a.1 = inlineStart ++ s) :
    (∀ a ∈ groups, ∃ line, headerLine options disk a.1 = .ok line) ∧
      (∀ a ∈ groups, ∀ block, blockOf options disk a = .ok block →
        ∃ line table, headerLine options disk a.1 = .ok line ∧ block.2 = line ++ '\n' :: table) ∧
      (∀ a ∈ groups, ∀ b ∈ groups, headerLine options disk a.1 = headerLine options disk b.1 ↔
        place disk a.1 = place disk b.1) ∧
      (∀ a ∈ groups, ∀ b ∈ groups, IsFilePath a.1 → IsFilePath b.1 →
        headerLine options disk a.1 = headerLine options disk b.1 → a = b) ∧
      ∀ a ∈ groups, ∀ s, a.1 = inlineStart ++ s → Stays s →
        (∀ b ∈ groups, IsFilePath b.1 →
          (headerLine options disk a.1 = headerLine options disk b.1 ↔
            names b.1 =
              place disk disk.workingDirectory ++ names (inlineStart ++ settled s))) ∧
        (∀ b ∈ groups, ∀ t, b.1 = inlineStart ++ t → Stays t →
          (headerLine options disk a.1 = headerLine options disk b.1 ↔ settled s = settled t)) ∧
        (¬ place disk disk.workingDirectory ++ [folder] <+: place disk start →
          ∃ shown, displayPath options disk a.1 = .ok shown ∧
            inlineStart ++ settled s <:+ shown) ∧
        (place disk start = place disk disk.workingDirectory →
          displayPath options disk a.1 = .ok (inlineStart ++ settled s)) := by
  have hne : ∀ a ∈ groups, a.1 ≠ [] := by
    intro a ha hnil
    rcases hsources a ha with hfile | ⟨s, hs⟩
    · have habsolute := hfile.isAbsolute
      rw [hnil] at habsolute
      cases habsolute
    · exact inline_ne_nil s (hs.symm.trans hnil)
  have hsame : ∀ a ∈ groups, ∀ b ∈ groups,
      headerLine options disk a.1 = headerLine options disk b.1 ↔
        place disk a.1 = place disk b.1 :=
    fun a ha b hb => headerLine_eq_iff hdirectory hstart (hne a ha) (hne b hb)
  refine ⟨?_, fun a _ block hblock => exists_headerLine_of_blockOf hblock, hsame, ?_, ?_⟩
  · intro a ha
    exact ⟨_, congrArg (Except.map _) (displayPath_eq hstart (hne a ha))⟩
  · intro a ha b hb hfile hfile' hline
    have hnames := (hsame a ha b hb).mp hline
    rw [place_of_isFilePath hfile, place_of_isFilePath hfile'] at hnames
    have hsource : a.1 = b.1 := by
      rw [hfile.eq_rooted, hfile'.eq_rooted, hnames]
    exact List.inj_on_of_nodup_map (nodup_sources_of_group hgroups) ha hb hsource
  · intro a ha s hs hstays
    refine ⟨?_, ?_, ?_, ?_⟩
    · intro b hb hfile
      rw [hsame a ha b hb, hs, place_inline hdirectory hstays, place_of_isFilePath hfile,
        names_settled hstays]
      exact eq_comm
    · intro b hb t ht hstays'
      rw [hsame a ha b hb, hs, ht, place_inline hdirectory hstays,
        place_inline hdirectory hstays', List.append_cancel_left_eq]
      exact path_eq_iff hstays hstays'
    · rw [hs]
      exact suffix_displayPath_inline hdirectory hstart hstays
    · rw [hs]
      exact displayPath_inline hdirectory hstart hstays

/-! ## A source that leads out of its map -/

theorem ownPosition_of_inline {path before t : Text} {d : Diagnostic} {sourceMap : SourceMap}
    {line column : Int} {name : Value} (hmaps : options.sourceMaps = true)
    (hfile : disk.file? (absolute disk.workingDirectory path) =
      some (.bytes (Utf8.encode (before ++ '\n' :: Resolver.directive (inlineValue t)))))
    (hmap : SourceMap.ofText t disk.room.sourceMap = .ok sourceMap)
    (horigin : sourceMap.origin? d.line d.column .greatestLowerBound =
      .ok (some ⟨.str s, line, column, name⟩)) :
    ownPosition options disk Cache.empty path d =
      .ok ⟨inlineStart ++ s, .int line, .int column⟩ := by
  have hload := Resolver.outcome_load_of_target (Resolver.directiveValue?_inlineValue hfile)
    Resolver.target_inlineValue hmap
  have hanswer : (Resolver.answer disk (some (.inline (inlineValue t) (some sourceMap)))
      (position disk path d)).1 = .ok ⟨.found, ⟨inlineStart ++ s, .int line, .int column⟩⟩ := by
    rw [Resolver.answer_of_origin? rfl horigin rfl]
  exact ownPosition_of_load hmaps hload hanswer

theorem ownPosition_of_missing {path : Text} {d : Diagnostic} (hmaps : options.sourceMaps = true)
    (hfile : disk.isFile (absolute disk.workingDirectory path) = false) :
    ownPosition options disk Cache.empty path d = .ok (position disk path d) := by
  have hload : (Resolver.load disk (absolute disk.workingDirectory path)).outcome = .ok none := by
    rw [Resolver.load, hfile, if_neg Bool.false_ne_true]
  exact ownPosition_of_load hmaps hload rfl

theorem result_group_of_findings {report : Value} {path path' : Text} {d d' : Diagnostic}
    {p p' : Position} (hfiles : FileReport.ofReport report = .ok [⟨path, [d]⟩, ⟨path', [d']⟩])
    (hp : ownPosition options disk Cache.empty path d = .ok p)
    (hp' : ownPosition options disk Cache.empty path' d' = .ok p') (hne : p.source ≠ p'.source) :
    (group options disk Cache.empty report).result =
      .ok [(p.source, [{ d with line := p.line, column := p.column }]),
        (p'.source, [{ d' with line := p'.line, column := p'.column }])] := by
  have hlocated : FileReport.located [⟨path, [d]⟩, ⟨path', [d']⟩] = [(path, d), (path', d')] := rfl
  refine result_group_eq_ok_iff.mpr ⟨_, hfiles, ?_, ?_⟩
  · simp only [hlocated, List.forall_mem_cons]
    exact ⟨⟨p, hp⟩, ⟨p', hp'⟩, by simp⟩
  · simp only [hlocated, List.filterMap_cons, hp, hp']
    simp [Groups.ofList, Groups.insert, relocate, Except.toOption, hne]

def reportOfTwo (first second : Text) (column : Int) : Value :=
  .list [
    .map [(.str "filePath", .str first), (.str "messages", .list [
      .map [(.str "message", .str "m"), (.str "severity", .int 1), (.str "line", .int 1),
        (.str "column", .int column)]])],
    .map [(.str "filePath", .str second), (.str "messages", .list [
      .map [(.str "message", .str "n"), (.str "severity", .int 1), (.str "line", .int 1),
        (.str "column", .int column)]])]]

theorem headerLine_inlineOutDisk :
    ∃ groups,
      (group .standard Resolver.inlineOutDisk Cache.empty
        (reportOfTwo "out/a.js" "b.js" 4)).result = .ok groups ∧
      groups.map Prod.fst = [inlineStart ++ "../src/s.ts".toList, "/w/b.js".toList] ∧
      displayPath .standard Resolver.inlineOutDisk (inlineStart ++ "../src/s.ts".toList) =
        .ok (inlineStart ++ "../src/s.ts".toList) ∧
      headerLine .standard Resolver.inlineOutDisk (inlineStart ++ "../src/s.ts".toList) ≠
        headerLine .standard Resolver.inlineOutDisk "/w/b.js" := by
  have horigin : Resolver.outMap.origin? (.int 1) (.int 4) .greatestLowerBound =
      .ok (some ⟨.str "../src/s.ts", 1, 0, .null⟩) := by with_unfolding_all rfl
  have hgenerated : Resolver.inlineOutDisk.file? "/w/out/a.js" = some (.bytes (Utf8.encode
      ("x".toList ++ '\n' :: Resolver.directive (inlineValue Resolver.outMapText)))) := rfl
  have hp : ownPosition .standard Resolver.inlineOutDisk Cache.empty "out/a.js"
      ⟨"m", 1, .int 1, .int 4, .null, false⟩ = .ok ⟨_, .int 1, .int 0⟩ :=
    ownPosition_of_inline rfl hgenerated Resolver.ofText_outMapText horigin
  have hp' : ownPosition .standard Resolver.inlineOutDisk Cache.empty "b.js"
      ⟨"n", 1, .int 1, .int 4, .null, false⟩ = .ok ⟨"/w/b.js", .int 1, .int 4⟩ :=
    ownPosition_of_missing rfl rfl
  have hfiles : FileReport.ofReport (reportOfTwo "out/a.js" "b.js" 4) =
      .ok [⟨"out/a.js", [⟨"m", 1, .int 1, .int 4, .null, false⟩]⟩,
        ⟨"b.js", [⟨"n", 1, .int 1, .int 4, .null, false⟩]⟩] := rfl
  have hgroups := result_group_of_findings hfiles hp hp' (by decide)
  have hstart : displayStart? .standard Resolver.inlineOutDisk = some "/w" := rfl
  have hfile : IsFilePath "/w/b.js" := ⟨⟨rfl, rfl⟩, rfl⟩
  have hstays : Stays "../src/s.ts" := by decide
  obtain ⟨-, -, -, -, hinline⟩ := headerLine_group rfl hstart hgroups (by
    simp only [List.forall_mem_cons]
    exact ⟨Or.inr ⟨_, rfl⟩, Or.inl hfile, by simp⟩)
  obtain ⟨hsame, -, -, hshown⟩ := hinline _ List.mem_cons_self _ rfl hstays
  refine ⟨_, hgroups, rfl, hshown rfl, ?_⟩
  intro hline
  exact absurd ((hsame _ (List.mem_cons_of_mem _ List.mem_cons_self) hfile).mp hline) (by decide)

def climbingMapText : Text :=
  "\x7b\"version\":3,\"sources\":[\"/../../b.js\"],\"mappings\":\"AAAA\"\x7d"

def climbingMap : SourceMap where
  file := .null
  sourceRoot := .str []
  names := []
  sources := [.str "/../../b.js"]
  lines := #[#[⟨1, 0, some ⟨0, 1, 0, none⟩⟩]]

def climbingDisk : Disk :=
  ⟨"/work", [("/work/a.js", .bytes (Utf8.encode
    ("x".toList ++ '\n' :: Resolver.directive (inlineValue climbingMapText))))], [], {}⟩

theorem ofText_climbingMapText : SourceMap.ofText climbingMapText = .ok climbingMap := by
  have hguard : SourceMap.dropGuard climbingMapText = climbingMapText := rfl
  have hjson : Json.read climbingMapText =
      .ok (.map [(.str "version", .int 3), (.str "sources", .list [.str "/../../b.js"]),
        (.str "mappings", .str "AAAA")]) := rfl
  have hparse : Mappings.parse "AAAA" = .ok [[⟨1, 0, some ⟨0, 1, 0, none⟩⟩]] := by decide +kernel
  rw [SourceMap.ofText, hguard, hjson]
  show SourceMap.ofFields _ "AAAA" = _
  rw [SourceMap.ofFields_eq, hparse]
  rfl

/-- A source of an inline map and a file can share a header line, in which nothing is left of the
data URL. -/
theorem headerLine_climbingDisk :
    ∃ groups,
      (group ⟨false, .null, true⟩ climbingDisk Cache.empty
        (reportOfTwo "a.js" "b.js" 0)).result = .ok groups ∧
      groups.map Prod.fst = [inlineStart ++ "/../../b.js".toList, "/work/b.js".toList] ∧
      IsFilePath "/work/b.js" ∧
      headerLine ⟨false, .null, true⟩ climbingDisk (inlineStart ++ "/../../b.js".toList) =
        .ok "b.js" ∧
      headerLine ⟨false, .null, true⟩ climbingDisk "/work/b.js" = .ok "b.js" := by
  have horigin : climbingMap.origin? (.int 1) (.int 0) .greatestLowerBound =
      .ok (some ⟨.str "/../../b.js", 1, 0, .null⟩) := by with_unfolding_all rfl
  have hgenerated : climbingDisk.file? "/work/a.js" = some (.bytes (Utf8.encode
      ("x".toList ++ '\n' :: Resolver.directive (inlineValue climbingMapText)))) := rfl
  have hp : ownPosition ⟨false, .null, true⟩ climbingDisk Cache.empty "a.js"
      ⟨"m", 1, .int 1, .int 0, .null, false⟩ = .ok ⟨_, .int 1, .int 0⟩ :=
    ownPosition_of_inline rfl hgenerated ofText_climbingMapText horigin
  have hp' : ownPosition ⟨false, .null, true⟩ climbingDisk Cache.empty "b.js"
      ⟨"n", 1, .int 1, .int 0, .null, false⟩ = .ok ⟨"/work/b.js", .int 1, .int 0⟩ :=
    ownPosition_of_missing rfl rfl
  have hfiles : FileReport.ofReport (reportOfTwo "a.js" "b.js" 0) =
      .ok [⟨"a.js", [⟨"m", 1, .int 1, .int 0, .null, false⟩]⟩,
        ⟨"b.js", [⟨"n", 1, .int 1, .int 0, .null, false⟩]⟩] := rfl
  have hgroups := result_group_of_findings hfiles hp hp' (by decide)
  exact ⟨_, hgroups, rfl, ⟨⟨rfl, rfl⟩, rfl⟩, rfl, rfl⟩

end Report

end LintReport
