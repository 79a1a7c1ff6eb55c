import LintReport.Proofs.SourceMap.Choice
import LintReport.Proofs.SourceMap.Grammar
import Mathlib.Data.List.Basic

/-!
# Empty lines and empty segments

Lines without segments only count as lines, and segments without letters do not count at all.
Semicolons before a mappings text move its mappings down by as many lines and change nothing else
about them; semicolons after it add lines that nothing is found on; and commas at the edges of
segments add nothing. This holds of all texts, also of those that are refused, and so of what is
made of a map that has the text.
-/

namespace LintReport

/-- The mapping `k` lines further down. -/
def Mapping.lowered (k : Nat) (m : Mapping) : Mapping :=
  { m with generatedLine := m.generatedLine + k }

namespace Mappings

/-! ## Texts -/

def semicolons (k : Nat) : Text :=
  List.replicate k ';'

/-- That a place in a text is at the edge of a segment or on an empty line: an end of the text, a
comma or a semicolon is next to it. -/
def AtEdge (before after : Text) : Prop :=
  (∀ c, before.getLast? = some c → c = ',' ∨ c = ';') ∨
    ∀ c, after.head? = some c → c = ',' ∨ c = ';'

/-- That a text comes from another by putting in commas one by one, each at the edge of a segment or
on an empty line. -/
inductive CommasAdded (t : Text) : Text → Prop where
  | refl : CommasAdded t t
  | step {before after : Text} (h : CommasAdded t (before ++ after))
      (hedge : AtEdge before after) : CommasAdded t (before ++ ',' :: after)

theorem segmentTexts_append_comma (a b : Text) :
    segmentTexts (a ++ ',' :: b) = segmentTexts a ++ segmentTexts b := by
  unfold segmentTexts
  rw [Text.split_append_separator, List.filter_append]

theorem segmentLines_append_semicolon (a b : Text) :
    segmentLines (a ++ ';' :: b) = segmentLines a ++ segmentLines b := by
  unfold segmentLines
  rw [Text.split_append_separator, List.map_append]

theorem segmentLines_of_not_mem {t : Text} (h : ';' ∉ t) : segmentLines t = [segmentTexts t] := by
  rw [segmentLines, Text.split_of_not_mem h]
  rfl

/-- Of what stands before a place only the line of the place matters. -/
theorem segmentLines_append_congr_left {x y : Text}
    (h : ∀ line, ';' ∉ line → segmentLines (line ++ x) = segmentLines (line ++ y)) (before : Text) :
    segmentLines (before ++ x) = segmentLines (before ++ y) := by
  by_cases hmem : ';' ∈ before
  · obtain ⟨line, above, hreverse, hline⟩ :=
      List.eq_append_cons_of_mem (List.mem_reverse.mpr hmem)
    obtain rfl : before = above.reverse ++ ';' :: line.reverse := by
      rw [← List.reverse_reverse before, hreverse]
      simp
    rw [List.append_assoc, List.append_assoc, List.cons_append, List.cons_append,
      segmentLines_append_semicolon, segmentLines_append_semicolon,
      h line.reverse (by simpa using hline)]
  · exact h before hmem

/-- Of what stands after a place only the line of the place matters. -/
theorem segmentLines_append_congr_right {x y : Text}
    (h : ∀ line, ';' ∉ line → segmentLines (x ++ line) = segmentLines (y ++ line)) (after : Text) :
    segmentLines (x ++ after) = segmentLines (y ++ after) := by
  by_cases hmem : ';' ∈ after
  · obtain ⟨line, below, rfl, hline⟩ := List.eq_append_cons_of_mem hmem
    rw [← List.append_assoc, ← List.append_assoc, segmentLines_append_semicolon,
      segmentLines_append_semicolon, h line hline]
  · exact h after hmem

theorem segmentLines_comma_cons (t : Text) : segmentLines (',' :: t) = segmentLines t := by
  apply segmentLines_append_congr_right (x := [',']) (y := [])
  intro line hline
  have hcomma : ';' ∉ [','] ++ line := by simpa using hline
  rw [segmentLines_of_not_mem hcomma, List.nil_append, segmentLines_of_not_mem hline]
  exact congrArg (fun texts => [texts]) (segmentTexts_append_comma [] line)

theorem segmentLines_concat_comma (t : Text) : segmentLines (t ++ [',']) = segmentLines t := by
  have hempty := segmentLines_append_congr_left (x := [',']) (y := []) ?_ t
  · rwa [List.append_nil] at hempty
  · intro line hline
    have hcomma : ';' ∉ line ++ [','] := by simpa using hline
    rw [segmentLines_of_not_mem hcomma, List.append_nil, segmentLines_of_not_mem hline,
      segmentTexts_append_comma]
    exact congrArg (fun texts => [texts]) (List.append_nil _)

theorem segmentLines_comma_comma (a b : Text) :
    segmentLines (a ++ ',' :: ',' :: b) = segmentLines (a ++ ',' :: b) := by
  apply segmentLines_append_congr_left
  intro before hbefore
  have hright := segmentLines_append_congr_right (x := before ++ [',', ',']) (y := before ++ [','])
    ?_ b
  · simpa using hright
  · intro after hafter
    rw [segmentLines_of_not_mem (by simp [hbefore, hafter]),
      segmentLines_of_not_mem (by simp [hbefore, hafter])]
    simp only [List.append_assoc, List.cons_append, List.nil_append, segmentTexts_append_comma]
    exact congrArg (fun texts => [segmentTexts before ++ texts])
      (segmentTexts_append_comma [] after)

/-- A comma at the edge of a segment, or on an empty line, adds no segment. -/
theorem segmentLines_comma {before after : Text} (h : AtEdge before after) :
    segmentLines (before ++ ',' :: after) = segmentLines (before ++ after) := by
  rcases h with hbefore | hafter
  · rcases List.eq_nil_or_concat' before with rfl | ⟨start, c, rfl⟩
    · exact segmentLines_comma_cons after
    · rw [List.append_assoc, List.append_assoc]
      rcases hbefore c (by simp) with rfl | rfl
      · exact segmentLines_comma_comma start after
      · show segmentLines (start ++ ';' :: ',' :: after) = segmentLines (start ++ ';' :: after)
        rw [segmentLines_append_semicolon, segmentLines_append_semicolon, segmentLines_comma_cons]
  · cases after with
    | nil => rw [segmentLines_concat_comma, List.append_nil]
    | cons c rest =>
        rcases hafter c rfl with rfl | rfl
        · exact segmentLines_comma_comma before rest
        · have hcomma : before ++ ',' :: ';' :: rest = (before ++ [',']) ++ ';' :: rest := by simp
          rw [hcomma, segmentLines_append_semicolon, segmentLines_append_semicolon,
            segmentLines_concat_comma]

theorem CommasAdded.segmentLines_eq {t t' : Text} (h : CommasAdded t t') :
    segmentLines t' = segmentLines t := by
  induction h with
  | refl => rfl
  | step _ hedge ih => rw [segmentLines_comma hedge, ih]

theorem segmentLines_semicolons_append (k : Nat) (t : Text) :
    segmentLines (semicolons k ++ t) = List.replicate k [] ++ segmentLines t := by
  induction k with
  | zero => rfl
  | succ k ih =>
      have hstart : semicolons (k + 1) ++ t = [] ++ ';' :: (semicolons k ++ t) := rfl
      rw [hstart, segmentLines_append_semicolon, ih]
      rfl

theorem segmentLines_append_semicolons (t : Text) (k : Nat) :
    segmentLines (t ++ semicolons k) = segmentLines t ++ List.replicate k [] := by
  cases k with
  | zero =>
      show segmentLines (t ++ []) = segmentLines t ++ []
      rw [List.append_nil, List.append_nil]
  | succ k =>
      have hrest := segmentLines_semicolons_append k []
      rw [List.append_nil] at hrest
      show segmentLines (t ++ ';' :: semicolons k) = _
      rw [segmentLines_append_semicolon, hrest, List.replicate_succ']
      rfl

/-! ## Mappings -/

theorem read_congr {t t' : Text} (h : segmentLines t' = segmentLines t) : read t' = read t := by
  rw [read_eq_mapM, read_eq_mapM, h]

theorem mapM_readSegment_replicate (k : Nat) :
    (List.replicate k []).mapM (List.mapM readSegment) = .ok (List.replicate k []) := by
  induction k with
  | zero => rfl
  | succ k ih =>
      rw [List.replicate_succ, List.mapM_cons, ih]
      rfl

theorem read_semicolons_append (k : Nat) (t : Text) :
    read (semicolons k ++ t) = (read t).map fun lines => List.replicate k [] ++ lines := by
  rw [read_eq_mapM, read_eq_mapM, segmentLines_semicolons_append, List.mapM_append,
    mapM_readSegment_replicate]
  cases (segmentLines t).mapM (List.mapM readSegment) <;> rfl

theorem read_append_semicolons (t : Text) (k : Nat) :
    read (t ++ semicolons k) = (read t).map fun lines => lines ++ List.replicate k [] := by
  rw [read_eq_mapM, read_eq_mapM, segmentLines_append_semicolons, List.mapM_append,
    mapM_readSegment_replicate]
  cases (segmentLines t).mapM (List.mapM readSegment) <;> rfl

/-- Empty lines leave the totals as they are, so only the number of the line goes on. -/
theorem sumLines_replicate_append (line : Nat) (totals : Totals) (k : Nat)
    (rest : List (List Segment)) :
    sumLines line totals (List.replicate k [] ++ rest) =
      List.replicate k [] ++ sumLines (line + k) totals rest := by
  induction k generalizing line with
  | zero => rfl
  | succ k ih =>
      rw [List.replicate_succ, List.cons_append, sumLines]
      dsimp only [sumLine]
      rw [ih, List.replicate_succ, List.cons_append, Nat.add_assoc, Nat.add_comm 1 k]

theorem sumLines_append_replicate (line : Nat) (totals : Totals) (lines : List (List Segment))
    (k : Nat) :
    sumLines line totals (lines ++ List.replicate k []) =
      sumLines line totals lines ++ List.replicate k [] := by
  induction lines generalizing line totals with
  | nil =>
      have hempty := sumLines_replicate_append line totals k []
      rw [List.append_nil, sumLines, List.append_nil] at hempty
      exact hempty
  | cons segments rest ih =>
      rw [List.cons_append, sumLines, sumLines, List.cons_append]
      dsimp only
      rw [ih]

theorem sumLine_lowered (line k : Nat) (totals : Totals) (column : Int) (segments : List Segment) :
    sumLine (line + k) totals column segments =
      ((sumLine line totals column segments).1.map (Mapping.lowered k),
        (sumLine line totals column segments).2) := by
  induction segments generalizing totals column with
  | nil => rfl
  | cons s rest ih =>
      rw [sumLine, sumLine]
      cases s.place with
      | none =>
          dsimp only
          rw [ih]
          rfl
      | some p =>
          dsimp only
          rw [ih]
          rfl

theorem sumLines_lowered (line k : Nat) (totals : Totals) (lines : List (List Segment)) :
    sumLines (line + k) totals lines =
      (sumLines line totals lines).map (List.map (Mapping.lowered k)) := by
  induction lines generalizing line totals with
  | nil => rfl
  | cons segments rest ih =>
      rw [sumLines, sumLines, sumLine_lowered]
      dsimp only
      rw [List.map_cons, Nat.add_right_comm, ih]

theorem sortLine_lowered (k : Nat) (mappings : List Mapping) :
    sortLine (mappings.map (Mapping.lowered k)) = (sortLine mappings).map (Mapping.lowered k) :=
  (List.map_mergeSort (f := Mapping.lowered k) fun _ _ _ _ => rfl).symm

/-- Lines of mappings with `k` empty lines above them. -/
def lowered (k : Nat) (lines : List (List Mapping)) : List (List Mapping) :=
  List.replicate k [] ++ lines.map (List.map (Mapping.lowered k))

/-- Lines of mappings with `k` empty lines below them. -/
def extended (k : Nat) (lines : List (List Mapping)) : List (List Mapping) :=
  lines ++ List.replicate k []

theorem map_sortLine_replicate (k : Nat) :
    (List.replicate k []).map sortLine = List.replicate k [] := by
  have hempty : sortLine [] = [] := List.mergeSort_nil
  rw [List.map_replicate, hempty]

theorem parse_semicolons_append (k : Nat) (t : Text) :
    parse (semicolons k ++ t) = (parse t).map (lowered k) := by
  rw [parse, parse, read_semicolons_append]
  cases read t with
  | error fault => rfl
  | ok lines =>
      dsimp only [Except.map, lowered]
      rw [sumLines_replicate_append, sumLines_lowered, List.map_append, map_sortLine_replicate,
        List.map_map, List.map_map]
      congr 3
      funext mappings
      exact sortLine_lowered k mappings

theorem parse_append_semicolons (t : Text) (k : Nat) :
    parse (t ++ semicolons k) = (parse t).map (extended k) := by
  rw [parse, parse, read_append_semicolons]
  cases read t with
  | error fault => rfl
  | ok lines =>
      dsimp only [Except.map, extended]
      rw [sumLines_append_replicate, List.map_append, map_sortLine_replicate]

theorem CommasAdded.parse_eq {t t' : Text} (h : CommasAdded t t') : parse t' = parse t := by
  rw [parse, parse, read_congr h.segmentLines_eq]

end Mappings

/-! ## Entries -/

namespace Value

theorem sameKey_str (k : Value) (s : Text) : sameKey k (.str s) = k.isText s := by
  cases k <;> rfl

theorem named?_putEntry_self (name : Text) (v : Value) (entries : List (Value × Value)) :
    named? name (putEntry (.str name) v entries) = some v := by
  induction entries with
  | nil => simp [putEntry, named?, isText]
  | cons entry rest ih =>
      obtain ⟨k, w⟩ := entry
      rw [putEntry, sameKey_str]
      by_cases hk : k.isText name = true
      · rw [if_pos hk, named?, if_pos hk]
      · rw [if_neg hk, named?, if_neg hk, ih]

theorem named?_putEntry_of_ne {name other : Text} (h : other ≠ name) {v : Value}
    {entries : List (Value × Value)} :
    named? other (putEntry (.str name) v entries) = named? other entries := by
  induction entries with
  | nil => simp [putEntry, named?, isText, Ne.symm h]
  | cons entry rest ih =>
      obtain ⟨k, w⟩ := entry
      rw [putEntry, sameKey_str]
      by_cases hk : k.isText name = true
      · have hother : ¬ k.isText other = true := by
          cases k <;> simp_all [isText]
          exact fun heq => h heq.symm
        rw [if_pos hk, named?, if_neg hother, named?, if_neg hother]
      · rw [if_neg hk, named?, named?, ih]

end Value

/-! ## Source maps -/

namespace SourceMap

def withMappings (t : Text) (entries : List (Value × Value)) : List (Value × Value) :=
  Value.putEntry (.str "mappings") (.str t) entries

def lowered (k : Nat) (s : SourceMap) : SourceMap :=
  { s with lines := Array.replicate k #[] ++ s.lines.map (Array.map (Mapping.lowered k)) }

def extended (k : Nat) (s : SourceMap) : SourceMap :=
  { s with lines := s.lines ++ Array.replicate k #[] }

variable {entries : List (Value × Value)} {t t' : Text}

/-- What becomes of the mappings of a text becomes of the mappings of a map with this text, and what
is wrong with it stays wrong. -/
theorem ofFields_map {f : SourceMap → SourceMap} {g : List (List Mapping) → List (List Mapping)}
    (hparse : Mappings.parse t' = (Mappings.parse t).map g)
    (hf : ∀ (s : SourceMap) lines, f { s with lines := (lines.map List.toArray).toArray } =
      { s with lines := ((g lines).map List.toArray).toArray }) :
    ofFields entries t' = (ofFields entries t).map f := by
  rw [ofFields_eq, ofFields_eq, hparse]
  cases fieldElements (Value.namedD entries "names") with
  | error fault => rfl
  | ok names =>
      cases fieldElements (Value.namedD entries "sources") with
      | error fault => rfl
      | ok sources =>
          dsimp only
          cases allUnderRoot ((Value.namedD entries "sourceRoot").orElse (.str [])) sources with
          | error fault => rfl
          | ok sources =>
              cases Mappings.parse t with
              | error fault => rfl
              | ok lines => exact congrArg Except.ok (hf ⟨_, _, names, sources, #[]⟩ lines).symm

theorem ofFields_withMappings (m : Text) :
    ofFields (withMappings t entries) m = ofFields entries m := by
  have hother : ∀ name : Text, name ≠ "mappings".toList →
      Value.namedD (withMappings t entries) name = Value.namedD entries name :=
    fun name hname => by rw [Value.namedD, withMappings, Value.named?_putEntry_of_ne hname]; rfl
  rw [ofFields_eq, ofFields_eq, hother _ (by decide), hother _ (by decide), hother _ (by decide),
    hother _ (by decide)]

/-- All that is checked of a map besides its mappings does not depend on them. -/
theorem ofValue_withMappings_map {f : SourceMap → SourceMap}
    (h : ofFields entries t' = (ofFields entries t).map f) :
    ofValue (.map (withMappings t' entries)) =
      (ofValue (.map (withMappings t entries))).map f := by
  have hnamed : ∀ t, Value.namedD (withMappings t entries) "mappings" = .str t := by
    intro t
    rw [Value.namedD, withMappings, Value.named?_putEntry_self]
    rfl
  have hother : ∀ (name : Text) (t : Text), name ≠ "mappings".toList →
      Value.named? name (withMappings t entries) = Value.named? name entries :=
    fun name t hname => Value.named?_putEntry_of_ne hname
  unfold ofValue
  dsimp only
  rw [hother "sections" t (by decide), hother "sections" t' (by decide), hnamed, hnamed,
    Value.namedD, Value.namedD, hother "version" t (by decide), hother "version" t' (by decide)]
  split
  · rfl
  · split
    · dsimp only
      rw [ofFields_withMappings, ofFields_withMappings, h]
    · split <;> rfl

theorem ofValue_semicolons_append (k : Nat) (t : Text) (entries : List (Value × Value)) :
    ofValue (.map (withMappings (Mappings.semicolons k ++ t) entries)) =
      (ofValue (.map (withMappings t entries))).map (lowered k) := by
  apply ofValue_withMappings_map
  apply ofFields_map (Mappings.parse_semicolons_append k t)
  intro s lines
  simp [lowered, Mappings.lowered]

theorem ofValue_append_semicolons (t : Text) (k : Nat) (entries : List (Value × Value)) :
    ofValue (.map (withMappings (t ++ Mappings.semicolons k) entries)) =
      (ofValue (.map (withMappings t entries))).map (extended k) := by
  apply ofValue_withMappings_map
  apply ofFields_map (Mappings.parse_append_semicolons t k)
  intro s lines
  simp [extended, Mappings.extended]

theorem ofValue_commasAdded (h : Mappings.CommasAdded t t') :
    ofValue (.map (withMappings t' entries)) = ofValue (.map (withMappings t entries)) := by
  have hparse : Mappings.parse t' = (Mappings.parse t).map id := by
    rw [h.parse_eq]
    cases Mappings.parse t <;> rfl
  have hmap : ofValue (.map (withMappings t' entries)) =
      (ofValue (.map (withMappings t entries))).map id :=
    ofValue_withMappings_map (ofFields_map hparse fun _ _ => rfl)
  rw [hmap]
  cases ofValue (.map (withMappings t entries)) <;> rfl

/-! ## Questions -/

theorem isUpTo_lowered (k : Nat) (mappings : Array Mapping) (column : Value.Number) :
    isUpTo (mappings.map (Mapping.lowered k)) column = isUpTo mappings column := by
  funext i
  unfold isUpTo
  rw [Array.getElem?_map, Option.any_map]
  rfl

theorem isBefore_lowered (k : Nat) (mappings : Array Mapping) (column : Value.Number) :
    isBefore (mappings.map (Mapping.lowered k)) column = isBefore mappings column := by
  funext i
  unfold isBefore
  rw [Array.getElem?_map, Option.any_map]
  rfl

theorem choose?_lowered (k : Nat) (mappings : Array Mapping) (column : Value.Number) (bias : Bias) :
    choose? (mappings.map (Mapping.lowered k)) column bias =
      (choose? mappings column bias).map (Mapping.lowered k) := by
  cases bias with
  | greatestLowerBound =>
      rw [choose?, choose?, isUpTo_lowered, Array.size_map]
      cases partitionPoint (isUpTo mappings column) 0 mappings.size with
      | zero => rfl
      | succ count => exact Array.getElem?_map ..
  | leastUpperBound =>
      rw [choose?, choose?, isBefore_lowered, Array.size_map]
      exact Array.getElem?_map ..

def lineAt? (s : SourceMap) (line : Int) : Option (Array Mapping) :=
  if 1 ≤ line then s.lines[(line - 1).toNat]? else none

/-- The answer for a column of a line with the given mappings. -/
def answerOn (s : SourceMap) (mappings : Array Mapping) (column : Value) (bias : Bias) :
    Except QueryFault (Option Origin) :=
  if mappings.isEmpty then .ok none
  else
    match column with
    | .null => .ok none
    | column =>
      match column.number? with
      | none => .error .notAPosition
      | some column => .ok ((choose? mappings column bias).bind s.follow?)

theorem line?_int (s : SourceMap) (line : Int) : s.line? (.int line) = .ok (s.lineAt? line) := by
  unfold line? lineAt?
  by_cases hlow : line < 1
  · have hnot : ¬ 1 ≤ line := by omega
    simp [Value.Number.ltInt, hlow, hnot]
  · have hpos : 1 ≤ line := by omega
    rw [if_pos hpos]
    by_cases hhigh : (s.lines.size : Int) < line
    · rw [Array.getElem?_eq_none (by omega)]
      simp [Value.Number.gtInt, hhigh]
    · simp [Value.Number.ltInt, Value.Number.gtInt, hlow, hhigh]

/-- On a line that there is not, and on an empty one, nothing is found. -/
theorem origin?_of_number (s : SourceMap) {line : Value} {n : Int}
    (h : line.number? = some (.int n)) (column : Value) (bias : Bias) :
    s.origin? line column bias = s.answerOn ((s.lineAt? n).getD #[]) column bias := by
  unfold origin?
  split
  · cases h
  · exact (ite_self _).symm
  · next hcolumn =>
      rw [h]
      dsimp only
      rw [line?_int]
      unfold answerOn
      cases s.lineAt? n with
      | none => rfl
      | some mappings =>
          dsimp only [Option.getD_some]
          split
          · rfl
          · cases column with
            | null => exact absurd rfl hcolumn
            | _ => rfl

theorem lineAt?_lowered (k : Nat) (s : SourceMap) {line : Int} (h : 1 ≤ line) :
    (s.lowered k).lineAt? (line + k) =
      (s.lineAt? line).map (Array.map (Mapping.lowered k)) := by
  have hindex : (line + k - 1).toNat = k + (line - 1).toNat := by omega
  unfold lineAt?
  rw [if_pos (by omega), if_pos h, hindex, lowered]
  dsimp only
  rw [Array.getElem?_append_right (by simp), Array.size_replicate, Nat.add_sub_cancel_left,
    Array.getElem?_map]

/-- Mappings further down lead where they led before. -/
theorem answerOn_lowered (k : Nat) (s : SourceMap) (mappings : Array Mapping) (column : Value)
    (bias : Bias) :
    (s.lowered k).answerOn (mappings.map (Mapping.lowered k)) column bias =
      s.answerOn mappings column bias := by
  have hempty : (mappings.map (Mapping.lowered k)).isEmpty = mappings.isEmpty := by
    rw [Array.isEmpty, Array.isEmpty, Array.size_map]
  have hfollow : ∀ chosen : Option Mapping,
      (chosen.map (Mapping.lowered k)).bind (s.lowered k).follow? = chosen.bind s.follow? := by
    intro chosen
    cases chosen <;> rfl
  unfold answerOn
  simp only [hempty, choose?_lowered, hfollow]

/-- A question further down is answered as it was before. -/
theorem origin?_lowered (k : Nat) (s : SourceMap) {line : Int} (h : 1 ≤ line) (column : Value)
    (bias : Bias) :
    (s.lowered k).origin? (.int (line + k)) column bias = s.origin? (.int line) column bias := by
  rw [origin?_of_number _ rfl, origin?_of_number _ rfl, lineAt?_lowered k s h]
  cases s.lineAt? line with
  | none => rfl
  | some mappings => exact answerOn_lowered k s mappings column bias

theorem lineAt?_extended (k : Nat) (s : SourceMap) (line : Int) :
    ((s.extended k).lineAt? line).getD #[] = (s.lineAt? line).getD #[] := by
  unfold lineAt? extended
  split
  · dsimp only
    by_cases hin : (line - 1).toNat < s.lines.size
    · rw [Array.getElem?_append_left hin]
    · rw [Array.getElem?_append_right (by omega), Array.getElem?_replicate,
        Array.getElem?_eq_none (by omega)]
      split <;> rfl
  · rfl

/-- Lines without mappings answer as lines that there are not. A number that is no integer names no
line, and may lie beyond the lines that there are but among those with empty ones. -/
theorem origin?_extended (k : Nat) (s : SourceMap) {line : Value} (h : ∀ x, line ≠ .float x)
    (column : Value) (bias : Bias) :
    (s.extended k).origin? line column bias = s.origin? line column bias := by
  cases hnumber : line.number? with
  | none =>
      unfold origin?
      split
      · rfl
      · rfl
      · rw [hnumber]
  | some number =>
      cases number with
      | int n =>
          rw [origin?_of_number _ hnumber, origin?_of_number _ hnumber, lineAt?_extended]
          rfl
      | float x =>
          cases line with
          | float y => exact absurd rfl (h y)
          | _ => cases hnumber

/-- Semicolons before a mappings text move its mappings down by as many lines, semicolons after it
add empty lines, and commas at the edges of segments or on empty lines add nothing, neither to the
mappings nor to a map that has the text; a text or a map that is refused stays refused for the same
reason. So each question to such a map is answered as it was, further down by the number of
semicolons before the text, and at the same place after the other changes. -/
theorem emptyParts_neutral (t : Text) (k : Nat) (entries : List (Value × Value)) :
    Mappings.parse (Mappings.semicolons k ++ t) = (Mappings.parse t).map (Mappings.lowered k) ∧
      Mappings.parse (t ++ Mappings.semicolons k) = (Mappings.parse t).map (Mappings.extended k) ∧
      ofValue (.map (withMappings (Mappings.semicolons k ++ t) entries)) =
        (ofValue (.map (withMappings t entries))).map (lowered k) ∧
      ofValue (.map (withMappings (t ++ Mappings.semicolons k) entries)) =
        (ofValue (.map (withMappings t entries))).map (extended k) ∧
      (∀ t', Mappings.CommasAdded t t' → Mappings.parse t' = Mappings.parse t ∧
        ofValue (.map (withMappings t' entries)) = ofValue (.map (withMappings t entries))) ∧
      ∀ (s : SourceMap) (column : Value) (bias : Bias),
        (∀ line : Int, 1 ≤ line →
          (s.lowered k).origin? (.int (line + k)) column bias =
            s.origin? (.int line) column bias) ∧
        ∀ line : Value, (∀ x, line ≠ .float x) →
          (s.extended k).origin? line column bias = s.origin? line column bias := by
  refine ⟨Mappings.parse_semicolons_append k t, Mappings.parse_append_semicolons t k,
    ofValue_semicolons_append k t entries, ofValue_append_semicolons t k entries, ?_, ?_⟩
  · intro t' h
    exact ⟨h.parse_eq, ofValue_commasAdded h⟩
  · intro s column bias
    constructor
    · intro line hline
      exact origin?_lowered k s hline column bias
    · intro line hline
      exact origin?_extended k s hline column bias

theorem commasAdded_crossedFields :
    Mappings.CommasAdded "M,JAAAA,ACAA" ",M,,JAAAA,ACAA," := by
  have hcomma : ∀ (rest : Text) c, (',' :: rest).head? = some c → c = ',' ∨ c = ';' := by
    intro rest c hc
    exact Or.inl (Option.some.inj hc).symm
  have hend : ∀ c, ([] : Text).head? = some c → c = ',' ∨ c = ';' := by simp
  have hfirst : Mappings.CommasAdded "M,JAAAA,ACAA" ",M,JAAAA,ACAA" :=
    @Mappings.CommasAdded.step _ [] "M,JAAAA,ACAA" .refl (Or.inl (by simp))
  have hsecond : Mappings.CommasAdded "M,JAAAA,ACAA" ",M,,JAAAA,ACAA" :=
    @Mappings.CommasAdded.step _ ",M" ",JAAAA,ACAA" hfirst (Or.inr (hcomma "JAAAA,ACAA"))
  exact @Mappings.CommasAdded.step _ ",M,,JAAAA,ACAA" [] hsecond (Or.inr hend)

theorem emptyParts_neutral_crossedMap :
    Mappings.parse ",M,,JAAAA,ACAA," = Mappings.parse "M,JAAAA,ACAA" ∧
      ofValue (.map (withMappings ";;M,JAAAA,ACAA" crossedFields)) = .ok (crossedMap.lowered 2) ∧
      (crossedMap.lowered 2).origin? (.int 3) (.int 1) .leastUpperBound =
        .ok (some ⟨.str "s", 1, 0, .str "n"⟩) ∧
      (crossedMap.extended 2).origin? (.int 3) (.int 1) .leastUpperBound = .ok none := by
  obtain ⟨-, -, hlowered, -, hcommas, hquestions⟩ :=
    emptyParts_neutral "M,JAAAA,ACAA" 2 crossedFields
  obtain ⟨hdown, hsame⟩ := hquestions crossedMap (.int 1) .leastUpperBound
  have hmap : ofValue (.map (withMappings "M,JAAAA,ACAA" crossedFields)) = .ok crossedMap :=
    ofValue_crossedFields
  refine ⟨(hcommas _ commasAdded_crossedFields).1, ?_, ?_, ?_⟩
  · rw [hmap] at hlowered
    exact hlowered
  · exact (hdown 1 (by decide)).trans (by with_unfolding_all rfl)
  · exact (hsame (.int 3) (by simp)).trans (by with_unfolding_all rfl)

end SourceMap

end LintReport
