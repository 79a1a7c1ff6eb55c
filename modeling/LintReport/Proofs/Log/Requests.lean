import LintReport.Log
import Mathlib.Data.List.Forall2

/-!
# Loggers over time

A logger is set up when it is first asked for, and from then on it stays as it is, whatever is asked
for later and whatever becomes of the environment. Its handler is what keeps it from being set up
again. Names that ask for the same logger differ in nothing but the name of the program, which may
stand before the name of a part once.
-/

namespace LintReport.Log

/-! ## Names -/

/-- Two names ask for the same logger: they are one name, or one of them is the whole form of the
other, which is not whole yet. -/
def SameName (m n : Text) : Prop :=
  m = n ∨ (m = partStart ++ n ∧ ¬ partStart <+: n) ∨ (n = partStart ++ m ∧ ¬ partStart <+: m)

section Names

variable {m n : Text}

theorem partName_append (name : Text) : partName (partStart ++ name) = name := by
  rw [partName, Text.dropStart?_append, Option.getD_some]

theorem partName_eq_self {name : Text} (h : ¬ partStart <+: name) : partName name = name := by
  unfold partName
  cases hrest : Text.dropStart? partStart name with
  | none => rfl
  | some rest => exact absurd ⟨rest, (Text.append_of_dropStart? hrest).symm⟩ h

theorem partName_eq_iff : partName m = partName n ↔ SameName m n := by
  by_cases hm : partStart <+: m
  · obtain ⟨part, rfl⟩ := hm
    rw [partName_append]
    by_cases hn : partStart <+: n
    · obtain ⟨part', rfl⟩ := hn
      simp [SameName, partName_append]
    · rw [partName_eq_self hn]
      constructor
      · rintro rfl
        exact Or.inr (Or.inl ⟨rfl, hn⟩)
      · rintro (rfl | ⟨hwhole, -⟩ | ⟨-, hpart⟩)
        · exact absurd (List.prefix_append _ _) hn
        · exact List.append_cancel_left hwhole
        · exact absurd (List.prefix_append _ _) hpart
  · rw [partName_eq_self hm]
    by_cases hn : partStart <+: n
    · obtain ⟨part, rfl⟩ := hn
      rw [partName_append]
      constructor
      · rintro rfl
        exact Or.inr (Or.inr ⟨rfl, hm⟩)
      · rintro (rfl | ⟨-, hpart⟩ | ⟨hwhole, -⟩)
        · exact absurd (List.prefix_append _ _) hm
        · exact absurd (List.prefix_append _ _) hpart
        · exact (List.append_cancel_left hwhole).symm
    · rw [partName_eq_self hn]
      constructor
      · exact Or.inl
      · rintro (heq | ⟨rfl, -⟩ | ⟨rfl, -⟩)
        · exact heq
        · exact absurd (List.prefix_append _ _) hm
        · exact absurd (List.prefix_append _ _) hn

theorem rootName_ne (part : Text) : rootName ≠ partStart ++ part := by
  intro h
  have hlength := congrArg List.length h
  rw [partStart, List.length_append, List.length_append, List.length_singleton] at hlength
  omega

theorem wholeName_eq_iff : wholeName m = wholeName n ↔ SameName m n := by
  rw [← partName_eq_iff]
  constructor
  · intro h
    unfold wholeName at h
    split at h
    · next hm =>
        split at h
        · next hn => rw [List.isEmpty_iff.mp hm, List.isEmpty_iff.mp hn]
        · exact absurd h (rootName_ne _)
    · split at h
      · exact absurd h.symm (rootName_ne _)
      · exact List.append_cancel_left h
  · intro h
    rw [wholeName, wholeName, h]

end Names

/-! ## Levels -/

/-- The value of the variable gives loggers a level: it names the level once all its letters are
capitals, or it names none and loggers get the usual level. -/
def Level.GivenBy (value : Text) (level : Level) : Prop :=
  (level ∈ Level.all ∧ level.name = value.map capital) ∨
    (level = .info ∧ ∀ named ∈ Level.all, named.name ≠ value.map capital)

theorem givenBy_newLevel (environment : Environment) :
    Level.GivenBy (environment.get levelVariable) (newLevel environment) := by
  unfold newLevel Level.ofName?
  cases hfound : Level.all.find? fun level =>
      level.name = (environment.get levelVariable).map Level.capital with
  | none => exact Or.inr ⟨rfl, by simpa using hfound⟩
  | some level =>
      exact Or.inl ⟨List.mem_of_find?_eq_some hfound, by simpa using List.find?_some hfound⟩

/-- The character may stand for a capital of the name of a level: it is the capital or its small
letter, and a dotless i is a small letter of the capital I too. -/
def Writes (big c : Char) : Prop :=
  c = big ∨ c = big.toLower ∨ (big = 'I' ∧ c = 'ı')

instance : DecidableRel Writes := fun _ _ =>
  inferInstanceAs (Decidable (_ ∨ _))

theorem toNat_toUpper (c : Char) :
    c.toUpper.toNat = if 0x61 ≤ c.toNat ∧ c.toNat ≤ 0x7A then c.toNat - 32 else c.toNat := by
  have hends : 'a'.val.toNat = 0x61 ∧ 'z'.val.toNat = 0x7A := ⟨rfl, rfl⟩
  have hsmall : 'a'.val ≤ c.val ∧ c.val ≤ 'z'.val ↔ 0x61 ≤ c.toNat ∧ c.toNat ≤ 0x7A := by
    rw [UInt32.le_iff_toNat_le, UInt32.le_iff_toNat_le, hends.1, hends.2, Char.toNat_val]
  unfold Char.toUpper
  split
  · next h =>
      rw [if_pos (hsmall.mp h)]
      -- the capital lies 32 below, which is to add as good as all of a word
      have hshift : ('A'.val - 'a'.val).toNat = 2 ^ 32 - 32 := rfl
      have hval : ∀ v hv, (Char.mk v hv).toNat = v.toNat := fun _ _ => rfl
      have hc := hsmall.mp h
      rw [hval, UInt32.toNat_add, hshift, Char.toNat_val]
      omega
  · next h => rw [if_neg (fun hc => h (hsmall.mpr hc))]

theorem capital_eq_iff {big c : Char} (hbig : 0x41 ≤ big.toNat ∧ big.toNat ≤ 0x5A) :
    Level.capital c = big ↔ Writes big c := by
  have hletters : ∀ n < 0x5B, 0x41 ≤ n → (Char.ofNat n).toLower.toNat = n + 32 := by decide
  have hsmall := hletters big.toNat (by omega) hbig.1
  rw [Char.ofNat_toNat] at hsmall
  have hdotless : 'ı'.toNat = 0x131 ∧ 'I'.toNat = 0x49 := ⟨rfl, rfl⟩
  unfold Level.capital Writes
  simp only [← Char.toNat_inj]
  split
  · omega
  · rw [toNat_toUpper]
    split <;> omega

theorem map_capital_eq_iff {name value : Text}
    (hname : ∀ big ∈ name, 0x41 ≤ big.toNat ∧ big.toNat ≤ 0x5A) :
    value.map Level.capital = name ↔ List.Forall₂ Writes name value := by
  induction name generalizing value with
  | nil => simp
  | cons big name ih =>
      obtain ⟨hbig, hname⟩ := List.forall_mem_cons.mp hname
      cases value with
      | nil => simp
      | cons c value =>
          rw [List.map_cons, List.cons.injEq, List.forall₂_cons, capital_eq_iff hbig, ih hname]

/-- All letters of the names of levels are capitals of ASCII. -/
theorem Level.name_letters (level : Level) :
    ∀ big ∈ level.name, 0x41 ≤ big.toNat ∧ big.toNat ≤ 0x5A := by
  have hall : level.name.all fun big => 0x41 ≤ big.toNat ∧ big.toNat ≤ 0x5A := by
    cases level <;> decide
  simpa using hall

theorem Level.mem_all_iff {level : Level} : level ∈ all ↔ level ≠ .unset := by
  cases level <;> decide

/-- A value gives the one of the five levels whose name it writes letter by letter. If it writes
none of these names, it gives the usual level. -/
theorem Level.givenBy_iff {value : Text} {level : Level} :
    GivenBy value level ↔
      (level ≠ .unset ∧ List.Forall₂ Writes level.name value) ∨
        (level = .info ∧ ∀ named : Level, named ≠ .unset →
          ¬ List.Forall₂ Writes named.name value) := by
  have hwrites : ∀ named : Level,
      named.name = value.map capital ↔ List.Forall₂ Writes named.name value := by
    intro named
    rw [eq_comm, map_capital_eq_iff named.name_letters]
  unfold GivenBy
  simp only [mem_all_iff, ne_eq, hwrites]

/-! ## Registries -/

namespace Registry

variable {loggers : Registry} {logger : Logger} {whole : Text}

theorem name_of_get? (h : loggers.get? whole = some logger) : logger.name = whole := by
  simpa using List.find?_some h

theorem get?_put (loggers : Registry) (logger : Logger) (whole : Text) :
    (put logger loggers).get? whole =
      if logger.name = whole then some logger else loggers.get? whole := by
  unfold get?
  induction loggers with
  | nil => by_cases h : logger.name = whole <;> simp [put, h]
  | cons other rest ih =>
      unfold put
      by_cases hname : other.name = logger.name
      · by_cases h : logger.name = whole <;> simp [hname, h]
      · rw [if_neg hname, List.find?_cons, List.find?_cons, ih]
        by_cases h : logger.name = whole
        · have hother : other.name ≠ whole := fun heq => hname (heq.trans h.symm)
          simp [h, hother]
        · rw [if_neg h, if_neg h]

end Registry

/-! ## One request -/

/-- A logger that was set up in an environment. -/
def ready (environment : Environment) (whole : Text) : Logger :=
  ⟨whole, newLevel environment, 1, false⟩

theorem setUp_fresh (environment : Environment) (whole : Text) :
    setUp environment (fresh whole) = ready environment whole := rfl

theorem setUp_of_handlers {logger : Logger} (h : logger.handlers ≠ 0) (environment : Environment) :
    setUp environment logger = logger :=
  if_neg h

theorem name_setUp (environment : Environment) (logger : Logger) :
    (setUp environment logger).name = logger.name := by
  unfold setUp
  split <;> rfl

namespace State

variable {s : State} {name whole : Text} {logger : Logger}

theorem handed_of_get? (h : s.loggers.get? (wholeName name) = some logger)
    (hlogger : logger.handlers ≠ 0) : s.handed name = logger := by
  rw [handed, request, h, Option.getD_some, setUp_of_handlers hlogger]

theorem handed_of_get?_none (h : s.loggers.get? (wholeName name) = none) :
    s.handed name = ready s.environment (wholeName name) := by
  rw [handed, request, h, Option.getD_none, setUp_fresh]

theorem name_handed (s : State) (name : Text) : (s.handed name).name = wholeName name := by
  rw [handed, request, name_setUp]
  cases h : s.loggers.get? (wholeName name) with
  | none => rfl
  | some logger => exact Registry.name_of_get? h

theorem handed_congr {other : Text} (h : wholeName other = wholeName name) :
    s.handed other = s.handed name := by
  rw [handed, handed, request, request, h]

/-- A request leaves all loggers as they are but the one that it hands out. -/
theorem get?_next_request (s : State) (name whole : Text) :
    (s.next (.request name)).loggers.get? whole =
      if wholeName name = whole then some (s.handed name) else s.loggers.get? whole := by
  rw [← name_handed s name]
  exact Registry.get?_put _ _ whole

/-- No event changes a logger that was set up. -/
theorem get?_next_of_some (h : s.loggers.get? whole = some logger) (hlogger : logger.handlers ≠ 0)
    (e : Event) : (s.next e).loggers.get? whole = some logger := by
  cases e with
  | change environment => exact h
  | request name =>
      rw [get?_next_request]
      split
      · next hname =>
          subst hname
          rw [handed_of_get? h hlogger]
      · exact h

/-! ## A history -/

theorem get?_after_of_some (h : s.loggers.get? whole = some logger) (hlogger : logger.handlers ≠ 0)
    (events : List Event) : (s.after events).loggers.get? whole = some logger := by
  induction events generalizing s with
  | nil => exact h
  | cons e rest ih => exact ih (get?_next_of_some h hlogger e)

end State

/-- The environment in which a history asks for a logger first, or else the one that it ends in. -/
def environmentAtFirst (whole : Text) : Environment → List Event → Environment
  | environment, [] => environment
  | environment, .request name :: rest =>
    if wholeName name = whole then environment else environmentAtFirst whole environment rest
  | _, .change environment :: rest => environmentAtFirst whole environment rest

namespace State

variable {s : State} {name : Text}

/-- Whatever happens between, a logger that is handed out was set up when it was first asked for. -/
theorem handed_after (h : s.loggers.get? (wholeName name) = none) (events : List Event) :
    (s.after events).handed name =
      ready (environmentAtFirst (wholeName name) s.environment events) (wholeName name) := by
  induction events generalizing s with
  | nil => exact handed_of_get?_none h
  | cons e rest ih =>
      rw [after_cons]
      cases e with
      | change environment => exact ih h
      | request other =>
          have hnext := get?_next_request s other (wholeName name)
          rw [environmentAtFirst]
          by_cases hsame : wholeName other = wholeName name
          · -- the handler that the logger has got keeps it as it is for the rest of the history
            have hfirst : s.handed other = ready s.environment (wholeName name) := by
              rw [handed_congr hsame, handed_of_get?_none h]
            rw [if_pos hsame, hfirst] at hnext
            rw [if_pos hsame]
            have hlogger : (ready s.environment (wholeName name)).handlers ≠ 0 := Nat.one_ne_zero
            exact handed_of_get? (get?_after_of_some hnext hlogger rest) hlogger
          · rw [if_neg hsame, h] at hnext
            rw [if_neg hsame]
            exact ih hnext

end State

/-- Take any history of requests for loggers and changes of the environment that starts without
loggers. A logger that is handed out has one handler, passes nothing on, and has the level that the
variable gave when the logger was first asked for. It is never changed again, and every name that
asks for the same logger gets it as it is. Requests by other names leave it alone, before it is
there and afterwards. -/
theorem handed_as_first_set_up (environment : Environment) (earlier later : List Event)
    (name : Text) :
    let s := (State.start environment).after earlier
    let t := (s.next (.request name)).after later
    (s.handed name).handlers = 1 ∧ (s.handed name).propagates = false ∧
      Level.GivenBy ((environmentAtFirst (wholeName name) environment earlier).get levelVariable)
        (s.handed name).level ∧
      t.loggers.get? (s.handed name).name = some (s.handed name) ∧
      ∀ other : Text,
        ((s.handed other).name = (s.handed name).name ↔ SameName other name) ∧
        (SameName other name → s.handed other = s.handed name ∧ t.handed other = s.handed name) ∧
        (¬ SameName other name → (s.next (.request other)).loggers.get? (s.handed name).name =
          s.loggers.get? (s.handed name).name) := by
  intro s t
  have hready : s.handed name =
      ready (environmentAtFirst (wholeName name) environment earlier) (wholeName name) :=
    State.handed_after rfl earlier
  have hlogger : (s.handed name).handlers ≠ 0 := by
    rw [hready]
    exact Nat.one_ne_zero
  have hnext : (s.next (.request name)).loggers.get? (wholeName name) = some (s.handed name) := by
    rw [State.get?_next_request, if_pos rfl]
  have hkept : t.loggers.get? (wholeName name) = some (s.handed name) :=
    State.get?_after_of_some hnext hlogger later
  have hname : (s.handed name).name = wholeName name := State.name_handed s name
  refine ⟨by rw [hready]; rfl, by rw [hready]; rfl, ?_, by rw [hname, hkept],
    fun other => ⟨?_, ?_, ?_⟩⟩
  · rw [hready]
    exact givenBy_newLevel _
  · rw [State.name_handed, State.name_handed]
    exact wholeName_eq_iff
  · intro hsame
    have hwhole := wholeName_eq_iff.mpr hsame
    refine ⟨State.handed_congr hwhole, ?_⟩
    rw [← hwhole] at hkept
    exact State.handed_of_get? hkept hlogger
  · intro hother
    rw [hname, State.get?_next_request, if_neg (fun hwhole => hother (wholeName_eq_iff.mp hwhole))]

def mixedEnvironment : Environment := [(levelVariable, "dEbuG")]

theorem handed_as_first_set_up_mixedEnvironment :
    let s := (State.start mixedEnvironment).after [.request "b"]
    let t := (s.next (.request "a")).after
      [.change [(levelVariable, "error")], .request "stylish_mapped.b"]
    (s.handed "a").level = .debug ∧ (s.handed "a").handlers = 1 ∧
      (s.handed "a").propagates = false ∧ t.handed "stylish_mapped.a" = s.handed "a" := by
  intro s t
  obtain ⟨hhandlers, hpropagates, hlevel, -, hothers⟩ := handed_as_first_set_up mixedEnvironment
    [.request "b"] [.change [(levelVariable, "error")], .request "stylish_mapped.b"] "a"
  have hvalue : (environmentAtFirst (wholeName "a") mixedEnvironment [.request "b"]).get
      levelVariable = "dEbuG".toList := by decide
  have hdebug : ∀ level, Level.GivenBy "dEbuG" level → level = .debug := by
    intro level hlevel
    rcases Level.givenBy_iff.mp hlevel with ⟨hset, hwrites⟩ | ⟨-, hnone⟩
    · cases level with
      | debug => rfl
      | unset => exact absurd rfl hset
      | _ => exact absurd hwrites (by decide)
    · exact absurd (by decide) (hnone .debug (by decide))
  have hsame : SameName "stylish_mapped.a" "a" := Or.inr (Or.inl ⟨rfl, by decide⟩)
  rw [hvalue] at hlevel
  exact ⟨hdebug _ hlevel, hhandlers, hpropagates, ((hothers _).2.1 hsame).2⟩

end LintReport.Log
