import LintReport.Proofs.Resolver.Load
import LintReport.Proofs.Resolver.Recall
import LintReport.Proofs.SourceMap.Misfit

/-!
# When a lookup has no answer

Whatever goes wrong on the way to a source should lead back to the position that was asked for, and
most of it does. A few things are noticed too late and leave no answer at all. They are listed here,
and the list is complete: a lookup answers if and only if nothing on it has happened on the disk that
the answer rests on.
-/

namespace LintReport

/-- A line or a column that is known, or null. -/
def Value.ofInt? : Option Int → Value
  | none => .null
  | some n => .int n

theorem SourceMap.origin?_ofInt? (sourceMap : SourceMap) (line column : Option Int) (bias : Bias) :
    ∃ origin, sourceMap.origin? (.ofInt? line) (.ofInt? column) bias = .ok origin := by
  cases line with
  | none => exact ⟨none, rfl⟩
  | some line =>
      cases column with
      | none => exact ⟨none, rfl⟩
      | some column => exact ⟨_, origin?_int sourceMap line column bias⟩

namespace Resolver

variable {disk : Disk} {generated value t : Text}

/-! ## The list -/

/-- A source that a map must not name: no text, or, beside a map in a file of its own, a URL with a bad
host. -/
def Unplaceable (entry : Entry) (source : Value) : Prop :=
  ∀ s, source = .str s → entry.isInline = false ∧ Url.toPath s = .error .badHost

/-- What can have gone wrong for good on the way from a position in a generated file. -/
inductive Spoiled (disk : Disk) (generated : Text) (line column : Option Int) : Prop where
  /-- The directive is a URL with a bad host. -/
  | directive {value : Text} (hvalue : directiveValue? disk generated = some value)
      (h : target disk generated value = .error .badHost)
  /-- The map is nested too deep. -/
  | depth {value t : Text} {entry : Option SourceMap → Entry}
      (hvalue : directiveValue? disk generated = some value)
      (htarget : target disk generated value = .ok (entry, some t))
      (h : Json.read (SourceMap.dropGuard t) disk.room.sourceMap = .error .tooDeep)
  /-- The names or sources of the map are of the wrong kind. -/
  | fields {value t : Text} {entry : Option SourceMap → Entry} {fields : List (Value × Value)}
      (hvalue : directiveValue? disk generated = some value)
      (htarget : target disk generated value = .ok (entry, some t))
      (hread : Json.read (SourceMap.dropGuard t) disk.room.sourceMap = .ok (.map fields))
      (hchecked : SourceMap.Checked fields) (h : SourceMap.Misfit fields)
  /-- The map leads from the position to a source that it must not name. -/
  | source {value t : Text} {entry : Option SourceMap → Entry} {sourceMap : SourceMap}
      {origin : Origin} (hvalue : directiveValue? disk generated = some value)
      (htarget : target disk generated value = .ok (entry, some t))
      (hmap : SourceMap.ofText t disk.room.sourceMap = .ok sourceMap)
      (horigin : sourceMap.origin? (.ofInt? line) (.ofInt? column) .greatestLowerBound =
        .ok (some origin))
      (h : Unplaceable (entry (some sourceMap)) origin.source)

/-! ## The list is complete -/

theorem parseMap_eq_error_iff {depth : Nat} :
    (∃ fault, parseMap depth t = .error fault) ↔
      ∃ fault, SourceMap.ofText t depth = .error fault ∧ fault.isRaised = true := by
  unfold parseMap
  cases SourceMap.ofText t depth with
  | ok sourceMap => simp
  | error fault => cases fault <;> simp [SourceMap.Fault.isRaised]

theorem outcome_load_eq_error_iff :
    (∃ fault, (load disk generated).outcome = .error fault) ↔
      ∃ value, directiveValue? disk generated = some value ∧
        (target disk generated value = .error .badHost ∨
          ∃ entry t, target disk generated value = .ok (entry, some t) ∧
            ∃ fault, SourceMap.ofText t disk.room.sourceMap = .error fault ∧
              fault.isRaised = true) := by
  rw [outcome_load]
  cases directiveValue? disk generated with
  | none => simp
  | some value =>
      simp only [Option.some.injEq, exists_eq_left']
      rw [outcome_follow]
      cases target disk generated value with
      | error fault => simp
      | ok reached =>
          obtain ⟨entry, text⟩ := reached
          cases text with
          | none => simp
          | some t =>
              simp only [reduceCtorEq, false_or, Except.ok.injEq, Prod.mk.injEq, Option.some.injEq]
              constructor
              · rintro ⟨fault, h⟩
                refine ⟨entry, t, ⟨rfl, rfl⟩, parseMap_eq_error_iff.mp ?_⟩
                cases hparse : parseMap disk.room.sourceMap t with
                | error fault => exact ⟨fault, rfl⟩
                | ok parsed =>
                    rw [hparse] at h
                    cases h
              · rintro ⟨_, _, ⟨rfl, rfl⟩, h⟩
                obtain ⟨fault, hparse⟩ := parseMap_eq_error_iff.mpr h
                rw [hparse]
                exact ⟨fault, rfl⟩

theorem sourcePath_eq_error_iff {entry : Entry} {sourceMap : SourceMap} {source : Value}
    (h : entry.sourceMap? = some sourceMap) :
    (∃ fault, sourcePath disk entry source = .error fault) ↔ Unplaceable entry source := by
  unfold Unplaceable
  cases entry with
  | undirected => cases h
  | inline url found => cases source <;> simp [sourcePath, Entry.isInline]
  | external path found =>
      cases source with
      | str s =>
          cases hname : Url.toPath s with
          | ok name => simp [sourcePath, hname]
          | error fault =>
              cases fault
              simp [sourcePath, hname, Entry.isInline]
      | _ => simp [sourcePath]

theorem answer_eq_error_iff {entry : Entry} {sourceMap : SourceMap} {source : Text}
    {line column : Option Int} (h : entry.sourceMap? = some sourceMap) :
    (∃ fault, (answer disk (some entry) ⟨source, .ofInt? line, .ofInt? column⟩).1 = .error fault) ↔
      ∃ origin, sourceMap.origin? (.ofInt? line) (.ofInt? column) .greatestLowerBound =
        .ok (some origin) ∧ Unplaceable entry origin.source := by
  obtain ⟨found, horigin⟩ :=
    SourceMap.origin?_ofInt? sourceMap line column .greatestLowerBound
  unfold answer
  dsimp only
  rw [h]
  dsimp only
  rw [horigin]
  cases found with
  | none => simp
  | some origin =>
      simp only [Except.ok.injEq, Option.some.injEq, exists_eq_left']
      rw [← sourcePath_eq_error_iff h]
      cases sourcePath disk entry origin.source <;> simp

theorem position_of_answer {found : Option Entry} {p : Position} {r : Resolution}
    (h : (answer disk found p).1 = .ok r) (hr : r.outcome ≠ .found) : r.position = p := by
  unfold answer at h
  split at h
  · obtain rfl := Except.ok.inj h
    rfl
  · split at h
    · obtain rfl := Except.ok.inj h
      rfl
    · split at h
      · cases h
      · obtain rfl := Except.ok.inj h
        rfl
      · split at h
        · cases h
        · obtain rfl := Except.ok.inj h
          exact absurd rfl hr

theorem spoiled_of_outcome_load {line column : Option Int} {fault : Fault}
    (h : (load disk generated).outcome = .error fault) : Spoiled disk generated line column := by
  obtain ⟨value, hvalue, htarget | ⟨entry, t, htarget, hmap⟩⟩ :=
    outcome_load_eq_error_iff.mp ⟨fault, h⟩
  · exact .directive hvalue htarget
  · rcases (SourceMap.ofText_raises_iff t _).mp hmap with hdeep |
      ⟨fields, hread, hchecked, hmisfit⟩
    · exact .depth hvalue htarget hdeep
    · exact .fields hvalue htarget hread hchecked hmisfit

theorem answer_of_no_map {found : Option Entry} (h : found.bind Entry.sourceMap? = none)
    (p : Position) : (answer disk found p).1 = .ok ⟨.noMap, p⟩ := by
  cases found with
  | none => rfl
  | some entry =>
      have hentry : entry.sourceMap? = none := h
      unfold answer
      dsimp only
      rw [hentry]

section Fresh

variable {line column : Option Int} {fault : Fault}

theorem spoiled_of_result_lookup
    (h : (lookup disk Cache.empty ⟨generated, .ofInt? line, .ofInt? column⟩).result =
      .error fault) : Spoiled disk generated line column := by
  rw [result_lookup_empty] at h
  cases hload : (load disk generated).outcome with
  | error fault => exact spoiled_of_outcome_load hload
  | ok found =>
      rw [hload] at h
      dsimp only [Except.bind] at h
      rcases found_of_outcome_load hload with hnone | ⟨value, entry, t, sourceMap, hvalue, htarget,
        hmap, rfl⟩
      · rw [answer_of_no_map hnone] at h
        cases h
      · obtain ⟨origin, horigin, hsource⟩ :=
          (answer_eq_error_iff (sourceMap?_of_target htarget (some sourceMap))).mp ⟨fault, h⟩
        exact .source hvalue htarget hmap horigin hsource

theorem Spoiled.result_lookup (h : Spoiled disk generated line column) :
    ∃ fault, (lookup disk Cache.empty ⟨generated, .ofInt? line, .ofInt? column⟩).result =
      .error fault := by
  rw [result_lookup_empty]
  -- a fault of the load is one of the lookup; else the fault is in the answer
  have hfault : (∃ fault, (load disk generated).outcome = .error fault) ∨
      ∃ entry sourceMap origin, (load disk generated).outcome = .ok (some entry) ∧
        entry.sourceMap? = some sourceMap ∧
        sourceMap.origin? (.ofInt? line) (.ofInt? column) .greatestLowerBound =
          .ok (some origin) ∧ Unplaceable entry origin.source := by
    cases h with
    | directive hvalue htarget =>
        exact Or.inl (outcome_load_eq_error_iff.mpr ⟨_, hvalue, Or.inl htarget⟩)
    | depth hvalue htarget hdeep =>
        have hmap := (SourceMap.ofText_raises_iff _ _).mpr (Or.inl hdeep)
        exact Or.inl (outcome_load_eq_error_iff.mpr ⟨_, hvalue, Or.inr ⟨_, _, htarget, hmap⟩⟩)
    | fields hvalue htarget hread hchecked hmisfit =>
        have hmap := (SourceMap.ofText_raises_iff _ _).mpr (Or.inr ⟨_, hread, hchecked, hmisfit⟩)
        exact Or.inl (outcome_load_eq_error_iff.mpr ⟨_, hvalue, Or.inr ⟨_, _, htarget, hmap⟩⟩)
    | source hvalue htarget hmap horigin hsource =>
        exact Or.inr ⟨_, _, _, outcome_load_of_target hvalue htarget hmap,
          sourceMap?_of_target htarget _, horigin, hsource⟩
  rcases hfault with ⟨fault, hload⟩ | ⟨entry, sourceMap, origin, hload, hmap, horigin, hsource⟩
  · dsimp only
    rw [hload]
    exact ⟨fault, rfl⟩
  · dsimp only
    rw [hload]
    exact (answer_eq_error_iff hmap).mpr ⟨origin, horigin, hsource⟩

end Fresh

theorem position_of_lookup {cache : Cache} {p : Position} {r : Resolution}
    (h : (lookup disk cache p).result = .ok r) (hr : r.outcome ≠ .found) : r.position = p := by
  rw [result_lookup] at h
  cases hentry : (entry disk cache p.source).result with
  | error fault =>
      rw [hentry] at h
      cases h
  | ok found =>
      rw [hentry] at h
      exact position_of_answer h hr

theorem result_resolve {cache : Cache} {p : Position} {r : Resolution}
    (h : (lookup disk cache p).result = .ok r) :
    (resolve disk cache p).result = .ok r.position := by
  unfold resolve Work.map
  rw [h]

/-- At any moment, through any cache in use, a lookup of a position answers if and only if nothing on
the list has happened on the disk that the answer rests on; and where an answer is not a source that
has been found, it is the position itself. -/
theorem lookup_after_answers_iff (disk : Disk) (events : List Event) (i : Nat) (source : Text)
    (line column : Option Int) :
    let s := (State.start disk).after events
    let p : Position := ⟨source, .ofInt? line, .ofInt? column⟩
    (∃ r, (lookup s.disk (s.caches i) p).result = .ok r ∧
        (resolve s.disk (s.caches i) p).result = .ok r.position ∧
        (r.outcome ≠ .found → r.position = p)) ↔
      ¬ Spoiled (basis i source disk events) source line column := by
  intro s p
  have hfresh := result_lookup_after disk events i p
  constructor
  · rintro ⟨r, hr, -, -⟩ hspoiled
    obtain ⟨fault, hfault⟩ := hspoiled.result_lookup
    rw [hfresh, hfault] at hr
    cases hr
  · intro hspoiled
    cases hresult : (lookup s.disk (s.caches i) p).result with
    | error fault =>
        rw [hfresh] at hresult
        exact absurd (spoiled_of_result_lookup hresult) hspoiled
    | ok r => exact ⟨r, rfl, result_resolve hresult, position_of_lookup hresult⟩

def misfitDisk : Disk :=
  ⟨"/work", [
    ("/work/a.js", .bytes (Utf8.encode "x\n//# sourceMappingURL=a.js.map")),
    ("/work/a.js.map", .bytes (Utf8.encode
      "\x7b\"version\":3,\"sources\":5,\"mappings\":\"AAAA\"\x7d"))], [], {}⟩

theorem lookup_misfitDisk :
    (lookup misfitDisk Cache.empty ⟨"/work/a.js", .int 1, .int 0⟩).result =
      .error .wrongKind := by
  have hgenerated : misfitDisk.file? "/work/a.js" =
      some (.bytes (Utf8.encode ("x".toList ++ '\n' :: directive "a.js.map"))) := rfl
  have hmap : misfitDisk.file? (besides misfitDisk "/work/a.js" "a.js.map") =
      some (.bytes (Utf8.encode
        "\x7b\"version\":3,\"sources\":5,\"mappings\":\"AAAA\"\x7d")) := rfl
  have hend : ∀ c, ("a.js.map".toList : Text).getLast? = some c → Text.isBlank c = false := by
    intro c hc
    obtain rfl := Option.some.inj hc
    decide
  have hvalue := directiveValue?_of_file? (by decide) (by decide) (by decide) hend hgenerated
  have htarget := target_of_file? rfl rfl hmap
  rw [Disk.unixLineBreaks_of_not_mem (by decide)] at htarget
  rw [result_lookup_empty, outcome_load]
  dsimp only
  rw [hvalue]
  dsimp only
  rw [outcome_follow, htarget]
  rfl

end Resolver

end LintReport
