import LintReport.Proofs.Settings.Entries
import LintReport.Settings.Load

/-!
# Settings that cannot be made

A document either makes settings or has a fault. The user is told of the fault if the settings are
no mapping or name no color mode. Three things are not foreseen: a table of tools that is no table,
a key that is no text and stands where a name is looked for, and a value that has no text.
-/

namespace LintReport.Settings

variable {name : Text} {entries : List (Value × Value)} {v : Value}

/-! ## What a search finds -/

/-- None of the entries is the one that is looked for. -/
def Passed (name : Text) (entries : List (Value × Value)) : Prop :=
  ∀ e ∈ entries, ∃ key, e.1 = .str key ∧ canonicalName key ≠ name

/-- What a search for a name comes upon. -/
inductive Search (name : Text) :
    List (Value × Value) → Except Fault (Option Value) → Prop where
  | nothing {entries : List (Value × Value)} (h : Passed name entries) :
      Search name entries (.ok none)
  | entry {before after : List (Value × Value)} {key : Text} {v : Value}
      (hbefore : Passed name before) (hkey : canonicalName key = name) :
      Search name (before ++ (.str key, v) :: after) (.ok (some v))
  | bytes {before after : List (Value × Value)} {bs : List UInt8} {v : Value}
      (hbefore : Passed name before) :
      Search name (before ++ (.bytes bs, v) :: after) (.error .keyBytes)
  | noText {before after : List (Value × Value)} {key v : Value}
      (hbefore : Passed name before) (htext : ∀ t, key ≠ .str t) (hbytes : ∀ bs, key ≠ .bytes bs) :
      Search name (before ++ (key, v) :: after) (.error .keyNotText)

theorem find?_append {before : List (Value × Value)} (h : Passed name before)
    (entries : List (Value × Value)) : find? name (before ++ entries) = find? name entries := by
  induction before with
  | nil => rfl
  | cons e before ih =>
      obtain ⟨⟨key, hkey, hne⟩, hbefore⟩ := List.forall_mem_cons.mp h
      obtain ⟨k, v⟩ := e
      obtain rfl : k = .str key := hkey
      rw [List.cons_append, find?, if_neg hne, ih hbefore]

theorem Search.cons {r : Except Fault (Option Value)} {key : Text}
    (h : Search name entries r) (hkey : canonicalName key ≠ name) :
    Search name ((.str key, v) :: entries) r := by
  have hcons : ∀ {before : List (Value × Value)}, Passed name before →
      Passed name ((.str key, v) :: before) := fun hbefore =>
    List.forall_mem_cons.mpr ⟨⟨key, rfl, hkey⟩, hbefore⟩
  cases h with
  | nothing h => exact .nothing (hcons h)
  | entry hbefore hname => exact .entry (hcons hbefore) hname
  | bytes hbefore => exact .bytes (hcons hbefore)
  | noText hbefore htext hbytes => exact .noText (hcons hbefore) htext hbytes

theorem find?_eq_iff {r : Except Fault (Option Value)} :
    find? name entries = r ↔ Search name entries r := by
  constructor
  · rintro rfl
    induction entries with
    | nil => exact .nothing nofun
    | cons e entries ih =>
        obtain ⟨key, v⟩ := e
        cases key with
        | str key =>
            rw [find?]
            split
            · next hkey => exact @Search.entry name [] entries key v nofun hkey
            · next hkey => exact ih.cons hkey
        | bytes bs => exact @Search.bytes name [] entries bs v nofun
        | _ => exact @Search.noText name [] entries _ v nofun nofun nofun
  · intro h
    cases h with
    | nothing h =>
        rw [← List.append_nil entries, find?_append h]
        rfl
    | entry hbefore hkey => rw [find?_append hbefore, find?, if_pos hkey]
    | bytes hbefore => rw [find?_append hbefore, find?]
    | @noText _ _ key _ hbefore htext hbytes =>
        rw [find?_append hbefore]
        cases key with
        | str t => exact absurd rfl (htext t)
        | bytes bs => exact absurd rfl (hbytes bs)
        | _ => rfl

/-! ## What a value comes to -/

/-- What does not count as true has a text all the same. -/
theorem truthy_of_text? (h : v.text? = none) : v.truthy = true := by
  cases v with
  | null | bool | str | float | bytes => cases h
  | moment | pair | enclosing => rfl
  | int n =>
      have hne : n ≠ 0 := by
        rintro rfl
        cases h
      simpa [Value.truthy] using hne
  | list xs =>
      cases xs with
      | nil => cases h
      | cons => rfl
  | map entries =>
      cases entries with
      | nil => cases h
      | cons => rfl
  | set xs =>
      cases xs with
      | nil => cases h
      | cons => rfl

theorem textOf_of_text? (h : v.text? = none) : textOf v = .error .numberTooLong := by
  rw [textOf, h]

theorem truth_eq_error_iff {fault : Fault} :
    truth v = .error fault ↔ v.text? = none ∧ fault = .numberTooLong := by
  unfold truth
  split
  · simp [Value.text?, Value.shown?]
  · unfold textOf
    cases v.text? <;> simp [Except.map, eq_comm]

theorem directory_eq_error_iff {fault : Fault} :
    directory v = .error fault ↔ v.text? = none ∧ fault = .numberTooLong := by
  unfold directory
  cases htext : v.text? with
  | none => simp [truthy_of_text? htext, textOf_of_text? htext, Except.map, eq_comm]
  | some t =>
      rw [textOf_eq_ok_iff.mpr htext]
      split <;> simp [Except.map]

theorem colorMode_eq_error_iff {fault : Fault} :
    colorMode v = .error fault ↔
      v.text? = none ∧ fault = .numberTooLong ∨
        ∃ t, v.text? = some t ∧ ColorMode.ofName? (Text.lower (Text.trim t)) = none ∧
          fault = .unknownColor (Text.lower (Text.trim t)) := by
  unfold colorMode
  rw [bind_eq_error_iff]
  cases htext : v.text? with
  | none => simp [textOf_of_text? htext, eq_comm]
  | some t =>
      rw [textOf_eq_ok_iff.mpr htext]
      cases hmode : ColorMode.ofName? (Text.lower (Text.trim t)) with
      | none => simp [hmode, throw, throwThe, MonadExceptOf.throw, eq_comm]
      | some mode => simp [hmode, pure, Except.pure]

theorem exists_truth_iff : (∃ b, truth v = .ok b) ↔ v.text? ≠ none := by
  rw [exists_ok_iff]
  simp [truth_eq_error_iff]

theorem exists_directory_iff : (∃ d, directory v = .ok d) ↔ v.text? ≠ none := by
  rw [exists_ok_iff]
  simp [directory_eq_error_iff]

theorem exists_colorMode_iff :
    (∃ mode, colorMode v = .ok mode) ↔
      v.text? ≠ none ∧
        ¬ ∃ t, v.text? = some t ∧ ColorMode.ofName? (Text.lower (Text.trim t)) = none := by
  rw [exists_ok_iff, ← not_or, not_iff_not]
  constructor
  · rintro ⟨fault, h⟩
    rcases colorMode_eq_error_iff.mp h with ⟨hnone, -⟩ | ⟨t, ht, hwrong, -⟩
    · exact Or.inl hnone
    · exact Or.inr ⟨t, ht, hwrong⟩
  · rintro (hnone | ⟨t, ht, hwrong⟩)
    · exact ⟨_, colorMode_eq_error_iff.mpr (Or.inl ⟨hnone, rfl⟩)⟩
    · exact ⟨_, colorMode_eq_error_iff.mpr (Or.inr ⟨t, ht, hwrong, rfl⟩)⟩

/-! ## What a mapping comes to -/

/-- The entries name a color that is none. -/
def WrongColor (entries : List (Value × Value)) : Prop :=
  ∃ v t, Search "color" entries (.ok (some v)) ∧ v.text? = some t ∧
    ColorMode.ofName? (Text.lower (Text.trim t)) = none

/-- The search for a name comes upon something that is not foreseen: a key that is no text, or a
value that has none. -/
inductive Trips (name : Text) (entries : List (Value × Value)) : Prop where
  | key {fault : Fault} (h : Search name entries (.error fault))
  | value {v : Value} (h : Search name entries (.ok (some v))) (hv : v.text? = none)

theorem trips_iff {found : Option Value} {other : Value}
    (hfind : find? name entries = .ok found) (hother : other.text? ≠ none) :
    Trips name entries ↔ (found.getD other).text? = none := by
  constructor
  · rintro (h | ⟨h, hv⟩)
    · rw [find?_eq_iff.mpr h] at hfind
      cases hfind
    · rw [find?_eq_iff.mpr h] at hfind
      obtain rfl := Except.ok.inj hfind
      exact hv
  · intro hnone
    cases found with
    | none => exact absurd hnone hother
    | some v => exact .value (find?_eq_iff.mp hfind) hnone

theorem wrongColor_iff {found : Option Value} (hfind : find? "color" entries = .ok found) :
    WrongColor entries ↔
      ∃ t, (found.getD (.str ColorMode.auto.name)).text? = some t ∧
        ColorMode.ofName? (Text.lower (Text.trim t)) = none := by
  constructor
  · rintro ⟨v, t, h, ht, hwrong⟩
    rw [find?_eq_iff.mpr h] at hfind
    obtain rfl := Except.ok.inj hfind
    exact ⟨t, ht, hwrong⟩
  · rintro ⟨t, ht, hwrong⟩
    cases found with
    | none =>
        obtain rfl := Option.some.inj ht
        have hauto : ColorMode.ofName? (Text.lower (Text.trim ColorMode.auto.name)) =
          some .auto := by decide +kernel
        rw [hauto] at hwrong
        cases hwrong
    | some v => exact ⟨v, t, find?_eq_iff.mp hfind, ht, hwrong⟩

theorem exists_find?_of_not_trips (h : ¬ Trips name entries) :
    ∃ found, find? name entries = .ok found := by
  cases hfind : find? name entries with
  | error fault => exact absurd (.key (find?_eq_iff.mp hfind)) h
  | ok found => exact ⟨found, rfl⟩

/-- The user is told of a color that is none as soon as it is found. -/
theorem exists_unknownColor_iff :
    (∃ found, ofEntries entries = .error (.unknownColor found)) ↔ WrongColor entries := by
  constructor
  · rintro ⟨found, h⟩
    have hsearch (name : Text) : find? name entries ≠ .error (.unknownColor found) := by
      intro hfind
      cases find?_eq_iff.mp hfind
    unfold ofEntries at h
    obtain ⟨color, hcolor, h⟩ := (bind_eq_error_iff.mp h).resolve_left (hsearch "color")
    rcases bind_eq_error_iff.mp h with hmode | ⟨mode, -, h⟩
    · rcases colorMode_eq_error_iff.mp hmode with ⟨-, hfault⟩ | ⟨t, ht, hwrong, -⟩
      · cases hfault
      · exact (wrongColor_iff hcolor).mpr ⟨t, ht, hwrong⟩
    -- what comes after the color has other faults
    · obtain ⟨shown, -, h⟩ := (bind_eq_error_iff.mp h).resolve_left (hsearch "cwd")
      obtain ⟨maps, -, h⟩ := (bind_eq_error_iff.mp h).resolve_left (hsearch "source_maps")
      rcases bind_eq_error_iff.mp h with htruth | ⟨consulted, -, h⟩
      · cases (truth_eq_error_iff.mp htruth).2
      · rcases bind_eq_error_iff.mp h with hdirectory | ⟨d, -, h⟩
        · cases (directory_eq_error_iff.mp hdirectory).2
        · cases h
  · rintro ⟨v, t, hv, ht, hwrong⟩
    have hmode := colorMode_eq_error_iff.mpr (Or.inr ⟨t, ht, hwrong, rfl⟩)
    exact ⟨_, bind_eq_error_iff.mpr (Or.inr ⟨_, find?_eq_iff.mpr hv,
      bind_eq_error_iff.mpr (Or.inl hmode)⟩)⟩

/-- Settings are made if the color is one and nothing is come upon that is not foreseen. -/
theorem exists_ofEntries_iff :
    (∃ s, ofEntries entries = .ok s) ↔
      ¬ WrongColor entries ∧ ∀ name ∈ names, ¬ Trips name entries := by
  have hnames : (∀ name ∈ names, ¬ Trips name entries) ↔
      ¬ Trips "source_maps" entries ∧ ¬ Trips "color" entries ∧ ¬ Trips "cwd" entries := by
    simp [names]
  have hauto : (Value.str ColorMode.auto.name).text? ≠ none := Option.some_ne_none _
  have hnull : Value.null.text? ≠ none := Option.some_ne_none _
  have htrue : (Value.bool true).text? ≠ none := Option.some_ne_none _
  rw [hnames]
  constructor
  · rintro ⟨s, h⟩
    obtain ⟨color, shown, maps, hcolor, hshown, hmaps, hmode, htruth, hdirectory⟩ :=
      ofEntries_eq_ok_iff.mp h
    rw [wrongColor_iff hcolor, trips_iff hmaps htrue, trips_iff hcolor hauto,
      trips_iff hshown hnull]
    obtain ⟨htext, hwrong⟩ := exists_colorMode_iff.mp ⟨_, hmode⟩
    exact ⟨hwrong, exists_truth_iff.mp ⟨_, htruth⟩, htext, exists_directory_iff.mp ⟨_, hdirectory⟩⟩
  · rintro ⟨hwrong, hmaps, hcolor, hshown⟩
    obtain ⟨color, hfindColor⟩ := exists_find?_of_not_trips hcolor
    obtain ⟨shown, hfindShown⟩ := exists_find?_of_not_trips hshown
    obtain ⟨maps, hfindMaps⟩ := exists_find?_of_not_trips hmaps
    rw [wrongColor_iff hfindColor] at hwrong
    rw [trips_iff hfindMaps htrue] at hmaps
    rw [trips_iff hfindColor hauto] at hcolor
    rw [trips_iff hfindShown hnull] at hshown
    obtain ⟨mode, hmode⟩ := exists_colorMode_iff.mpr ⟨hcolor, hwrong⟩
    obtain ⟨consulted, htruth⟩ := exists_truth_iff.mpr hmaps
    obtain ⟨d, hdirectory⟩ := exists_directory_iff.mpr hshown
    exact ⟨⟨consulted, mode, d⟩, ofEntries_eq_ok_iff.mpr
      ⟨color, shown, maps, hfindColor, hfindShown, hfindMaps, hmode, htruth, hdirectory⟩⟩

theorem isTold_settings_iff {fault : Fault} :
    (LoadFault.settings fault).isTold = true ↔ ∃ found, fault = .unknownColor found := by
  cases fault <;> simp [LoadFault.isTold]

/-! ## What a document comes to -/

/-- The document is a table, and so are its tools if it has them. -/
inductive HasToolTable : Value → Prop where
  | absent {entries : List (Value × Value)} (h : Value.named? "tool" entries = none) :
      HasToolTable (.map entries)
  | table {entries tools : List (Value × Value)}
      (h : Value.named? "tool" entries = some (.map tools)) : HasToolTable (.map entries)

/-- What is not foreseen of a document: tools that are no table, and settings of a color that is
one, if it is named, among which a search comes upon a key that is no text or a value that has
none. -/
inductive Unforeseen (format : Format) (document : Value) : Prop where
  | tools (hformat : format = .project ∨ format = .toml) (htools : ¬ HasToolTable document)
  | entries {entries : List (Value × Value)} {name : Text}
      (hselect : format.select document = .ok (.map entries)) (hcolor : ¬ WrongColor entries)
      (hname : name ∈ names) (htrips : Trips name entries)

theorem toolTable_eq_error_iff {document other : Value} {fault : LoadFault} :
    toolTable document other = .error fault ↔
      ¬ HasToolTable document ∧ fault = .toolsNotAMapping := by
  constructor
  · intro h
    refine ⟨?_, ?_⟩
    · rintro (hnone | hsome)
      · rw [toolTable, hnone] at h
        cases h
      · rw [toolTable, hsome] at h
        cases h
    · unfold toolTable at h
      split at h
      · split at h
        · cases h
        · cases h
        · exact (Except.error.inj h).symm
      · exact (Except.error.inj h).symm
  · rintro ⟨htools, rfl⟩
    unfold toolTable
    split
    · split
      · next hnone => exact absurd (.absent hnone) htools
      · next hsome => exact absurd (.table hsome) htools
      · rfl
    · rfl

theorem select_eq_error_iff {format : Format} {document : Value} {fault : LoadFault} :
    format.select document = .error fault ↔
      (format = .project ∨ format = .toml) ∧ ¬ HasToolTable document ∧
        fault = .toolsNotAMapping := by
  cases format with
  | project | toml => simp [Format.select, toolTable_eq_error_iff]
  | yaml | ini | none => simp [Format.select]

/-- A mapping makes settings, or its fault is one that the user is told, unless no color is wrong
and something is come upon that is not foreseen. -/
theorem ofEntries_isTold_iff :
    ((∃ s, ofEntries entries = .ok s) ∨
        ∃ fault, ofEntries entries = .error fault ∧ (LoadFault.settings fault).isTold = true) ↔
      ¬ (¬ WrongColor entries ∧ ∃ name ∈ names, Trips name entries) := by
  have htold : (∃ fault, ofEntries entries = .error fault ∧
      (LoadFault.settings fault).isTold = true) ↔ WrongColor entries := by
    rw [← exists_unknownColor_iff]
    constructor
    · rintro ⟨fault, hmade, htold⟩
      obtain ⟨found, rfl⟩ := isTold_settings_iff.mp htold
      exact ⟨found, hmade⟩
    · rintro ⟨found, hmade⟩
      exact ⟨_, hmade, rfl⟩
  rw [htold, exists_ofEntries_iff]
  by_cases hcolor : WrongColor entries
  -- a wrong color is told before anything else is come upon
  · simp [hcolor]
  · simp [hcolor]

/-- The settings of a file are made, or the user is told why not, unless its document is of the
kind that is not foreseen. -/
theorem ofDocument_isTold_iff {path : Text} {document : Value} :
    ((∃ s, ofDocument path document = .ok s) ∨
        ∃ fault, ofDocument path document = .error fault ∧ fault.isTold = true) ↔
      ¬ Unforeseen (.ofPath path) document := by
  cases hselect : (Format.ofPath path).select document with
  | error fault =>
      obtain ⟨hformat, htools, rfl⟩ := select_eq_error_iff.mp hselect
      have hfault : ofDocument path document = .error .toolsNotAMapping := by
        rw [ofDocument, hselect]
        rfl
      simp [hfault, LoadFault.isTold, Unforeseen.tools hformat htools]
  | ok selected =>
      have hunforeseen : Unforeseen (.ofPath path) document ↔ ∃ entries,
          selected = .map entries ∧ ¬ WrongColor entries ∧
            ∃ name ∈ names, Trips name entries := by
        constructor
        · rintro (⟨hformat, htools⟩ | ⟨hselect', hcolor, hname, htrips⟩)
          · rw [select_eq_error_iff.mpr ⟨hformat, htools, rfl⟩] at hselect
            cases hselect
          · obtain rfl := Except.ok.inj (hselect.symm.trans hselect')
            exact ⟨_, rfl, hcolor, _, hname, htrips⟩
        · rintro ⟨entries, rfl, hcolor, name, hname, htrips⟩
          exact .entries hselect hcolor hname htrips
      rw [hunforeseen]
      cases selected with
      | map entries =>
          have hmade : ofDocument path document = (ofEntries entries).mapError .settings := by
            rw [ofDocument, hselect]
            rfl
          simp only [hmade, mapError_eq_ok_iff, mapError_eq_error_iff, Value.map.injEq,
            exists_eq_left', ← ofEntries_isTold_iff]
          apply or_congr Iff.rfl
          constructor
          · rintro ⟨fault, ⟨e, he, rfl⟩, htold⟩
            exact ⟨e, he, htold⟩
          · rintro ⟨e, he, htold⟩
            exact ⟨_, ⟨e, he, rfl⟩, htold⟩
      | _ =>
          have hfault : ofDocument path document = .error (.notAMapping path) := by
            rw [ofDocument, hselect]
            rfl
          simp [hfault, LoadFault.isTold]

/-- An INI file has texts only, so all about it is foreseen. -/
theorem not_unforeseen_ini {room : Room} {t : Text} {document : Value}
    (h : Format.ini.read room t = .ok document) : ¬ Unforeseen .ini document := by
  obtain ⟨options, rfl⟩ : ∃ options : List (Text × Text),
      document = .map (written (options.map fun option => (option.1, .str option.2))) := by
    unfold Format.read at h
    cases hread : Ini.read ["tool:" ++ sectionName, sectionName] t with
    | error fault =>
        rw [hread] at h
        cases h
    | ok options =>
        rw [hread] at h
        refine ⟨options, ?_⟩
        rw [written, List.map_map]
        exact (Except.ok.inj h).symm
  rintro (⟨hformat | hformat, -⟩ | ⟨hselect, -, -, htrips⟩)
  · cases hformat
  · cases hformat
  · obtain rfl := Value.map.inj (Except.ok.inj hselect)
    rcases htrips with hkey | ⟨hvalue, htext⟩
    · have hfind := find?_eq_iff.mpr hkey
      rw [find?_written] at hfind
      cases hfind
    · have hfind := find?_eq_iff.mpr hvalue
      rw [find?_written] at hfind
      obtain ⟨e, he, rfl⟩ := List.mem_map.mp (List.mem_of_head? (Except.ok.inj hfind))
      obtain ⟨option, -, rfl⟩ := List.mem_map.mp (List.mem_filter.mp he).1
      cases htext

/-! ## What settings are -/

theorem exists_ofEntries_of_ofDocument {path : Text} {document : Value} {s : Settings}
    (h : ofDocument path document = .ok s) : ∃ entries, ofEntries entries = .ok s := by
  unfold ofDocument at h
  obtain ⟨selected, -, h⟩ := bind_eq_ok_iff.mp h
  split at h
  · next entries => exact ⟨entries, mapError_eq_ok_iff.mp h⟩
  · cases h

/-- The directory of settings is no empty text. -/
theorem displayDirectory_ne_nil {path : Text} {document : Value} {s : Settings}
    (h : ofDocument path document = .ok s) : s.displayDirectory ≠ some [] := by
  obtain ⟨entries, hmade⟩ := exists_ofEntries_of_ofDocument h
  obtain ⟨-, shown, -, -, -, -, -, -, hdirectory⟩ := ofEntries_eq_ok_iff.mp hmade
  intro hnil
  rw [hnil] at hdirectory
  exact ne_nil_of_directory hdirectory rfl

end LintReport.Settings
