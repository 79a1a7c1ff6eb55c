import LintReport.Proofs.SourceMap.Mappings
import LintReport.Proofs.SourceMap.Nearest

/-!
# Source maps that were written

An object with the standard form of mappings and a list of sources is accepted as a source map, and
a question to this map is answered by a scan of the mappings as they were before they were written.
-/

namespace LintReport.SourceMap

/-! ## Acceptance -/

theorem ofFields_eq (entries : List (Value × Value)) (mappings : Text) :
    ofFields entries mappings =
      match fieldElements (Value.namedD entries "names"),
        fieldElements (Value.namedD entries "sources") with
      | .error fault, _ => .error fault
      | .ok _, .error fault => .error fault
      | .ok names, .ok sources =>
        match allUnderRoot ((Value.namedD entries "sourceRoot").orElse (.str [])) sources with
        | .error fault => .error fault
        | .ok sources =>
          match Mappings.parse mappings with
          | .error fault => .error (.flaw (.mappings fault))
          | .ok lines =>
            .ok {
              file := Value.namedD entries "file"
              sourceRoot := (Value.namedD entries "sourceRoot").orElse (.str [])
              names
              sources
              lines := (lines.map List.toArray).toArray } := by
  unfold ofFields
  cases fieldElements (Value.namedD entries "names") with
  | error fault => rfl
  | ok names =>
      cases fieldElements (Value.namedD entries "sources") with
      | error fault => rfl
      | ok sources =>
          dsimp only [bind, Except.bind]
          cases allUnderRoot ((Value.namedD entries "sourceRoot").orElse (.str [])) sources with
          | error fault => rfl
          | ok sources =>
              dsimp only
              cases Mappings.parse mappings <;> rfl

/-- The entries of an object that writes a source map in the standard form: a version, sources that
are texts, and mappings; no sections and no source root. Names may be anything that is acceptable as
names. -/
structure Writes (entries : List (Value × Value)) (sources : List Text)
    (lines : List (List Mapping)) : Prop where
  noSections : Value.named? "sections" entries = none
  version : (Value.namedD entries "version").isInt supportedVersion = true
  noRoot : Value.named? "sourceRoot" entries = none
  names : ∃ names, fieldElements (Value.namedD entries "names") = .ok names
  sources : Value.namedD entries "sources" = .list (sources.map .str)
  mappings : Value.namedD entries "mappings" = .str (Mappings.encode lines)

theorem fieldElements_list (xs : List Value) : fieldElements (.list xs) = .ok xs := by
  cases xs <;> rfl

theorem allUnderRoot_of_not_truthy {root : Value} (h : root.truthy = false) (sources : List Value) :
    allUnderRoot root sources = .ok sources := by
  induction sources with
  | nil => rfl
  | cons source rest ih =>
      have hsource : underRoot root source = .ok source := by
        unfold underRoot
        split
        · rfl
        · simp [h]
      rw [allUnderRoot, hsource, ih]
      rfl

theorem ofValue_of_writes {entries : List (Value × Value)} {sources : List Text}
    {lines : List (List Mapping)} (h : Writes entries sources lines) (hne : lines ≠ []) :
    ∃ sourceMap, ofValue (.map entries) = .ok sourceMap ∧
      sourceMap.sources = sources.map .str ∧
      sourceMap.lines =
        (((Mappings.numbered 1 lines).map Mappings.sortLine).map List.toArray).toArray := by
  obtain ⟨names, hnames⟩ := h.names
  have hroot : Value.namedD entries "sourceRoot" = .null := by
    rw [Value.namedD, h.noRoot]
    rfl
  have hsources := fieldElements_list (sources.map .str)
  refine ⟨⟨Value.namedD entries "file", .str [], names, sources.map .str, _⟩, ?_, rfl, rfl⟩
  unfold ofValue
  dsimp only
  rw [h.noSections, Option.isSome_none, if_neg Bool.false_ne_true, if_pos h.version, h.mappings]
  dsimp only
  rw [ofFields_eq, hnames, h.sources, hsources, hroot]
  dsimp only
  rw [allUnderRoot_of_not_truthy rfl, Mappings.parse_encode hne]
  rfl

/-- What is accepted is an object in which all that is checked is right, with the mappings that its
text writes. -/
theorem exists_parse_of_ofValue {sourceMap : SourceMap} {v : Value} (h : ofValue v = .ok sourceMap) :
    ∃ entries t lines, v = .map entries ∧ Value.named? "sections" entries = none ∧
      (Value.namedD entries "version").isInt supportedVersion = true ∧
      Value.namedD entries "mappings" = .str t ∧ Mappings.parse t = .ok lines ∧
      sourceMap.lines = (lines.map List.toArray).toArray := by
  unfold ofValue at h
  split at h
  · next entries =>
      split at h
      · cases h
      · next hsections =>
          dsimp only at h
          split at h
          · next hversion =>
              split at h
              · next t ht =>
                  rw [ofFields_eq] at h
                  split at h
                  · cases h
                  · cases h
                  · split at h
                    · cases h
                    · split at h
                      · cases h
                      · next lines hlines =>
                          obtain rfl := Except.ok.inj h
                          exact ⟨entries, t, lines, rfl, by simpa using hsections, hversion, ht,
                            hlines, rfl⟩
              · cases h
          · split at h <;> cases h
  · cases h

/-! ## Questions -/

theorem origin?_int (sourceMap : SourceMap) (line column : Int) (bias : Bias) :
    sourceMap.origin? (.int line) (.int column) bias =
      .ok (if 1 ≤ line then
        (sourceMap.lines[(line - 1).toNat]?).bind fun mappings =>
          (choose? mappings (.int column) bias).bind sourceMap.follow?
      else none) := by
  unfold origin? line?
  dsimp only [Value.number?]
  by_cases hlow : line < 1
  · have hnot : ¬ 1 ≤ line := by omega
    simp [Value.Number.ltInt, hlow, hnot]
  · have hpos : 1 ≤ line := by omega
    by_cases hhigh : (sourceMap.lines.size : Int) < line
    · have hout : sourceMap.lines[(line - 1).toNat]? = none :=
        Array.getElem?_eq_none (by omega)
      rw [if_pos hpos, hout]
      simp [Value.Number.ltInt, Value.Number.gtInt, hhigh]
    · simp only [Value.Number.ltInt, Value.Number.gtInt, hlow, hhigh, hpos, decide_false,
        Bool.or_false, Bool.false_eq_true, if_false, if_true]
      cases sourceMap.lines[(line - 1).toNat]? with
      | none => rfl
      | some mappings =>
          dsimp only [Option.bind_some]
          split
          · next hempty =>
              have hnil := Array.isEmpty_iff.mp hempty
              subst hnil
              cases bias <;> simp [choose?, partitionPoint]
          · rfl

theorem nearest?_numberedLine (line : Nat) (column : Int) (mappings : List Mapping) :
    nearest? column (Mappings.numberedLine line mappings) =
      (nearest? column mappings).map fun m => { m with generatedLine := line } := by
  induction mappings with
  | nil => rfl
  | cons m rest ih =>
      have hcons : Mappings.numberedLine line (m :: rest) =
          { m with generatedLine := line } :: Mappings.numberedLine line rest := rfl
      rw [hcons, nearest?, nearest?, ih]
      cases nearest? column rest with
      | none =>
          dsimp only [Option.map_none]
          split <;> rfl
      | some n =>
          dsimp only [Option.map_some]
          split <;> rfl

theorem getElem?_numbered (first : Nat) (lines : List (List Mapping)) (i : Nat) :
    (Mappings.numbered first lines)[i]? =
      (lines[i]?).map (Mappings.numberedLine (first + i)) := by
  induction lines generalizing first i with
  | nil => rfl
  | cons mappings rest ih =>
      cases i with
      | zero => rfl
      | succ i =>
          have hnext : first + 1 + i = first + (i + 1) := by omega
          rw [Mappings.numbered, List.getElem?_cons_succ, List.getElem?_cons_succ, ih, hnext]

/-- Where mappings and sources say that a generated position comes from, before they are written:
the nearest mapping of the line is found by a scan, and it leads somewhere if it has a place in a
source that there is. The source is given with the line and the column in it. -/
def originBefore? (sources : List Text) (lines : List (List Mapping)) (line column : Int) :
    Option (Text × Int × Int) :=
  if 1 ≤ line then do
    let mappings ← lines[(line - 1).toNat]?
    let m ← nearest? column mappings
    let place ← m.place
    let source ← if 0 ≤ place.source then sources[place.source.toNat]? else none
    return (source, place.line, place.column)
  else none

theorem mem_sources_of_originBefore? {sources : List Text} {lines : List (List Mapping)}
    {line column : Int} {source : Text} {originalLine originalColumn : Int}
    (h : originBefore? sources lines line column = some (source, originalLine, originalColumn)) :
    source ∈ sources := by
  unfold originBefore? at h
  split at h
  · simp only [Option.bind_eq_bind, Option.bind_eq_some_iff] at h
    obtain ⟨mappings, -, m, -, place, -, hrest⟩ := h
    split at hrest
    · obtain ⟨found, hfound, hresult⟩ := Option.bind_eq_some_iff.mp hrest
      simp only [Option.pure_def, Option.some.injEq, Prod.mk.injEq] at hresult
      obtain ⟨rfl, -⟩ := hresult
      exact List.mem_of_getElem? hfound
    · simp at hrest
  · simp at h

/-- A written map answers with the place that its mappings had before they were written. -/
theorem origin?_of_written {sourceMap : SourceMap} {sources : List Text}
    {lines : List (List Mapping)} (hsources : sourceMap.sources = sources.map .str)
    (hlines : sourceMap.lines =
      (((Mappings.numbered 1 lines).map Mappings.sortLine).map List.toArray).toArray)
    (line column : Int) :
    match originBefore? sources lines line column with
    | none => sourceMap.origin? (.int line) (.int column) .greatestLowerBound = .ok none
    | some (source, originalLine, originalColumn) =>
      ∃ name, sourceMap.origin? (.int line) (.int column) .greatestLowerBound =
        .ok (some ⟨.str source, originalLine, originalColumn, name⟩) := by
  rw [origin?_int, hlines]
  unfold originBefore?
  by_cases hpos : 1 ≤ line
  · rw [if_pos hpos, if_pos hpos]
    rw [List.getElem?_toArray, List.getElem?_map, List.getElem?_map, getElem?_numbered]
    cases lines[(line - 1).toNat]? with
    | none => rfl
    | some mappings =>
        dsimp only [Option.map_some, Option.bind_some, Option.bind_eq_bind]
        rw [choose?_sortLine, nearest?_numberedLine]
        cases nearest? column mappings with
        | none => rfl
        | some m =>
            dsimp only [Option.map_some, Option.bind_some]
            unfold follow?
            dsimp only
            cases m.place with
            | none => rfl
            | some place =>
                dsimp only [Option.bind_some]
                unfold elementAt?
                rw [hsources]
                by_cases hnegative : place.source < 0
                · have hnot : ¬ 0 ≤ place.source := by omega
                  rw [if_pos hnegative, if_neg hnot]
                  rfl
                · have hnot : 0 ≤ place.source := by omega
                  rw [if_neg hnegative, if_pos hnot, List.getElem?_map]
                  cases sources[place.source.toNat]? with
                  | none => rfl
                  | some source => exact ⟨_, rfl⟩
  · rw [if_neg hpos, if_neg hpos]

end LintReport.SourceMap
