import LintReport.Proofs.Value.Shown
import LintReport.Settings.Basic

/-!
# The entries that count

Settings depend on three names only, and of each name on the first entry that counts under it. How
its key is spelled, which other entries there are, and in what order the names come makes no
difference. Settings that are written down again under the three names are the same settings.
-/

namespace LintReport.Settings

variable {entries entries' : List (Value × Value)} {name : Text} {v : Value} {s : Settings}

/-! ## Looking for a name -/

/-- The entries of a mapping whose keys are texts. -/
def written (entries : List (Text × Value)) : List (Value × Value) :=
  entries.map fun e => (.str e.1, e.2)

def names : List Text := ["source_maps", "color", "cwd"]

/-- The values under a name, first come first. -/
def valuesOf (name : Text) (entries : List (Text × Value)) : List Value :=
  (entries.filter fun e => canonicalName e.1 = name).map (·.2)

theorem canonicalName_of_mem_names : ∀ name ∈ names, canonicalName name = name := by
  decide +kernel

theorem valuesOf_cons (name : Text) (e : Text × Value) (entries : List (Text × Value)) :
    valuesOf name (e :: entries) =
      if canonicalName e.1 = name then e.2 :: valuesOf name entries else valuesOf name entries := by
  unfold valuesOf
  by_cases he : canonicalName e.1 = name <;> simp [he]

theorem find?_written (name : Text) (entries : List (Text × Value)) :
    find? name (written entries) = .ok (valuesOf name entries).head? := by
  induction entries with
  | nil => rfl
  | cons e entries ih =>
      change (if canonicalName e.1 = name then Except.ok (some e.2)
        else find? name (written entries)) = _
      rw [ih, valuesOf_cons]
      split <;> rfl

/-- Where all keys are spelled as names, the first entry of a name is that with its key. -/
theorem find?_written_of_canonical {name : Text} {entries : List (Text × Value)}
    (h : ∀ e ∈ entries, canonicalName e.1 = e.1) :
    find? name (written entries) = .ok (entries.lookup name) := by
  rw [find?_written]
  induction entries with
  | nil => rfl
  | cons e entries ih =>
      obtain ⟨he, hentries⟩ := List.forall_mem_cons.mp h
      have ih := Except.ok.inj (ih hentries)
      rw [valuesOf_cons, he, List.lookup_cons]
      by_cases hname : e.1 = name
      · simp [hname]
      · simp [hname, beq_false_of_ne (Ne.symm hname), ih]

/-- Nothing is asked about the entries but what the first one of each name is. -/
theorem ofEntries_congr (h : ∀ name ∈ names, find? name entries' = find? name entries) :
    ofEntries entries' = ofEntries entries := by
  unfold ofEntries
  rw [h "source_maps" (by simp [names]), h "color" (by simp [names]), h "cwd" (by simp [names])]

theorem ofEntries_written_congr {entries entries' : List (Text × Value)}
    (h : ∀ name ∈ names, valuesOf name entries' = valuesOf name entries) :
    ofEntries (written entries') = ofEntries (written entries) := by
  apply ofEntries_congr
  intro name hname
  rw [find?_written, find?_written, h name hname]

/-- The first entry of each name, under this very name. -/
def settled (entries : List (Text × Value)) : List (Text × Value) :=
  names.filterMap fun name => (valuesOf name entries).head?.map (name, ·)

theorem lookup_filterMap (first : Text → Option Value) (ns : List Text) (name : Text) :
    (ns.filterMap fun n => (first n).map (n, ·)).lookup name =
      if name ∈ ns then first name else none := by
  induction ns with
  | nil => rfl
  | cons n ns ih =>
      cases hfirst : first n with
      | none =>
          rw [List.filterMap_cons_none (by simp [hfirst]), ih]
          by_cases hname : name = n
          · simp [hname, hfirst]
          · simp [hname]
      | some v =>
          rw [List.filterMap_cons_some (b := (n, v)) (by simp [hfirst]), List.lookup_cons, ih]
          by_cases hname : name = n
          · simp [hname, hfirst]
          · simp [hname, beq_false_of_ne hname]

theorem find?_settled (entries : List (Text × Value)) {name : Text} (hname : name ∈ names) :
    find? name (written (settled entries)) = find? name (written entries) := by
  have hcanonical : ∀ e ∈ settled entries, canonicalName e.1 = e.1 := by
    intro e he
    obtain ⟨n, hn, h⟩ := List.mem_filterMap.mp he
    obtain ⟨v, -, rfl⟩ := Option.map_eq_some_iff.mp h
    exact canonicalName_of_mem_names n hn
  rw [find?_written_of_canonical hcanonical, find?_written, settled, lookup_filterMap, if_pos hname]

/-! ## Settings as entries -/

def toEntries (s : Settings) : List (Text × Value) := [
  ("source_maps", .bool s.sourceMaps), ("color", .str s.color.name),
  ("cwd", (s.displayDirectory.map .str).getD .null)]

theorem colorMode_name (mode : ColorMode) : colorMode (.str mode.name) = .ok mode := by
  have hname : ColorMode.ofName? (Text.lower (Text.trim mode.name)) = some mode := by
    cases mode <;> decide +kernel
  unfold colorMode
  refine bind_eq_ok_iff.mpr ⟨mode.name, rfl, ?_⟩
  dsimp only
  rw [hname]
  rfl

theorem textOf_eq_ok_iff {t : Text} : textOf v = .ok t ↔ v.text? = some t := by
  unfold textOf
  cases v.text? <;> simp

/-- A directory that is named is no empty text: of what counts as true only texts of one character
or more have a text at all. -/
theorem ne_nil_of_directory {directory : Text} (h : Settings.directory v = .ok (some directory)) :
    directory ≠ [] := by
  rintro rfl
  unfold Settings.directory at h
  split at h
  · next htrue =>
      cases htext : textOf v with
      | error fault =>
          rw [htext] at h
          cases h
      | ok t =>
          rw [htext] at h
          obtain rfl : t = [] := by simpa [Except.map] using h
          obtain rfl := Value.text?_eq_nil_iff.mp (textOf_eq_ok_iff.mp htext)
          cases htrue
  · cases h

theorem directory_of_directory {d : Option Text} (h : directory v = .ok d) :
    directory ((d.map .str).getD .null) = .ok d := by
  cases d with
  | none => rfl
  | some t =>
      have hne : t.isEmpty = false := by simpa using ne_nil_of_directory h
      simp [directory, Value.truthy, hne, textOf, Value.text?, Except.map]

theorem ofEntries_eq_ok_iff :
    ofEntries entries = .ok s ↔
      ∃ color shown maps, find? "color" entries = .ok color ∧ find? "cwd" entries = .ok shown ∧
        find? "source_maps" entries = .ok maps ∧
        colorMode (color.getD (.str ColorMode.auto.name)) = .ok s.color ∧
        truth (maps.getD (.bool true)) = .ok s.sourceMaps ∧
        directory (shown.getD .null) = .ok s.displayDirectory := by
  unfold ofEntries
  simp only [bind_eq_ok_iff, pure_eq_ok_iff]
  constructor
  · rintro ⟨color, hcolor, mode, hmode, shown, hshown, maps, hmaps, consulted, htruth, d, hd, rfl⟩
    exact ⟨color, shown, maps, hcolor, hshown, hmaps, hmode, htruth, hd⟩
  · rintro ⟨color, shown, maps, hcolor, hshown, hmaps, hmode, htruth, hd⟩
    exact ⟨color, hcolor, _, hmode, shown, hshown, maps, hmaps, _, htruth, _, hd, rfl⟩

theorem mem_names_of_toEntries {e : Text × Value} (h : e ∈ s.toEntries) : e.1 ∈ names := by
  have hnames : s.toEntries.map (·.1) = names := rfl
  exact hnames ▸ List.mem_map_of_mem h

/-- Settings that were made from entries are made again from their own. -/
theorem ofEntries_toEntries (h : ofEntries entries = .ok s) :
    ofEntries (written s.toEntries) = .ok s := by
  obtain ⟨-, shown, -, -, -, -, -, -, hd⟩ := ofEntries_eq_ok_iff.mp h
  have hcanonical : ∀ e ∈ s.toEntries, canonicalName e.1 = e.1 := fun e he =>
    canonicalName_of_mem_names e.1 (mem_names_of_toEntries he)
  have hfirst (name : Text) : find? name (written s.toEntries) = .ok (s.toEntries.lookup name) :=
    find?_written_of_canonical hcanonical
  have hcolor : s.toEntries.lookup ("color" : Text) = some (.str s.color.name) := rfl
  have hshown : s.toEntries.lookup ("cwd" : Text) =
      some ((s.displayDirectory.map .str).getD .null) := rfl
  have hmaps : s.toEntries.lookup ("source_maps" : Text) = some (.bool s.sourceMaps) := rfl
  refine ofEntries_eq_ok_iff.mpr ⟨_, _, _, hfirst "color", hfirst "cwd", hfirst "source_maps", ?_⟩
  rw [hcolor, hshown, hmaps]
  exact ⟨colorMode_name s.color, rfl, directory_of_directory hd⟩

/-! ## What settings depend on -/

/-- The entries under the names that their keys stand for. -/
def renamed (entries : List (Text × Value)) : List (Text × Value) :=
  entries.map fun e => (canonicalName e.1, e.2)

/-- The entries of the three names. -/
def counted (entries : List (Text × Value)) : List (Text × Value) :=
  entries.filter fun e => canonicalName e.1 ∈ names

theorem valuesOf_eq_renamed (name : Text) (entries : List (Text × Value)) :
    valuesOf name entries = ((renamed entries).filter fun e => e.1 = name).map (·.2) := by
  rw [valuesOf, renamed, List.filter_map, List.map_map]
  rfl

theorem valuesOf_counted {name : Text} (hname : name ∈ names) (entries : List (Text × Value)) :
    valuesOf name (counted entries) = valuesOf name entries := by
  unfold valuesOf counted
  rw [List.filter_filter]
  congr 1
  apply List.filter_congr
  intro e _
  by_cases he : canonicalName e.1 = name
  · simp [he, hname]
  · simp [he]

/-- The settings that a mapping makes, or the fault of it, are those of the mapping that has just
the first entry of each name. So they do not change with the order of the entries, if those of one
name stay in order among themselves, with the spelling of the keys, or with the entries of other
names. And they are made again from the entries that they make themselves. -/
theorem ofEntries_eq_settled (entries : List (Text × Value)) :
    ofEntries (written entries) = ofEntries (written (settled entries)) ∧
      (∀ entries', (∀ name ∈ names, valuesOf name entries' = valuesOf name entries) →
        ofEntries (written entries') = ofEntries (written entries)) ∧
      (∀ entries', renamed entries' = renamed entries →
        ofEntries (written entries') = ofEntries (written entries)) ∧
      (∀ entries', counted entries' = counted entries →
        ofEntries (written entries') = ofEntries (written entries)) ∧
      ∀ s, ofEntries (written entries) = .ok s → ofEntries (written s.toEntries) = .ok s := by
  refine ⟨?_, ?_, ?_, ?_, ?_⟩
  · exact (ofEntries_congr fun name hname => find?_settled entries hname).symm
  · intro entries' hvalues
    exact ofEntries_written_congr hvalues
  · intro entries' hrenamed
    apply ofEntries_written_congr
    intro name _
    rw [valuesOf_eq_renamed, valuesOf_eq_renamed, hrenamed]
  · intro entries' hcounted
    apply ofEntries_written_congr
    intro name hname
    rw [← valuesOf_counted hname, hcounted, valuesOf_counted hname]
  · intro s hs
    exact ofEntries_toEntries hs

/-- Entries in odd spellings, one of them beside the point and one too late. -/
def oddEntries : List (Text × Value) := [
  ("Source-Maps", .str " OFF "), ("width", .int 80), ("COLOR", .str "Never "), ("Cwd", .int 5),
  ("color", .str "red")]

def oddSettings : Settings := ⟨false, .never, some "5"⟩

def movedEntries : List (Text × Value) := [
  ("Cwd", .int 5), ("COLOR", .str "Never "), ("color", .str "red"), ("width", .int 80),
  ("Source-Maps", .str " OFF ")]

def respelledEntries : List (Text × Value) := [
  ("SOURCE_maps", .str " OFF "), ("WIDTH", .int 80), ("color", .str "Never "), ("CWD", .int 5),
  ("Color", .str "red")]

theorem ofEntries_eq_settled_oddEntries :
    ofEntries (written oddEntries) = .ok oddSettings ∧
      ofEntries (written (settled oddEntries)) = .ok oddSettings ∧
      ofEntries (written movedEntries) = .ok oddSettings ∧
      ofEntries (written respelledEntries) = .ok oddSettings ∧
      ofEntries (written (oddEntries.eraseIdx 1)) = .ok oddSettings ∧
      ofEntries (written oddSettings.toEntries) = .ok oddSettings := by
  have hodd : ofEntries (written oddEntries) = .ok oddSettings := by
    have hmade : (ofEntries (written oddEntries)).toOption = some oddSettings := by decide +kernel
    cases h : ofEntries (written oddEntries) with
    | error fault =>
        rw [h] at hmade
        cases hmade
    | ok s =>
        rw [h] at hmade
        rw [Option.some.inj hmade]
  have hnames :
      oddEntries.map (fun e => canonicalName e.1) =
        (["source_maps", "width", "color", "cwd", "color"] : List Text) ∧
      movedEntries.map (fun e => canonicalName e.1) =
        (["cwd", "color", "color", "width", "source_maps"] : List Text) ∧
      respelledEntries.map (fun e => canonicalName e.1) =
        (["source_maps", "width", "color", "cwd", "color"] : List Text) := by decide +kernel
  simp only [oddEntries, movedEntries, respelledEntries, List.map_cons, List.cons.injEq] at hnames
  have hmoved : ∀ name ∈ names, valuesOf name movedEntries = valuesOf name oddEntries := by
    simp only [names, List.forall_mem_cons, valuesOf_cons, oddEntries, movedEntries, hnames]
    exact ⟨rfl, rfl, rfl, nofun⟩
  have hrespelled : renamed respelledEntries = renamed oddEntries := by
    simp only [renamed, respelledEntries, oddEntries, List.map_cons, hnames]
  have herased : counted (oddEntries.eraseIdx 1) = counted oddEntries := by
    simp only [counted, oddEntries, List.eraseIdx, List.filter_cons, hnames]
    rfl
  obtain ⟨hsettled, hmove, hrespell, hcount, hagain⟩ := ofEntries_eq_settled oddEntries
  exact ⟨hodd, hsettled.symm.trans hodd, (hmove _ hmoved).trans hodd,
    (hrespell _ hrespelled).trans hodd, (hcount _ herased).trans hodd, hagain _ hodd⟩

end LintReport.Settings
