import LintReport.Proofs.Base64.Alphabet
import LintReport.Proofs.Result
import LintReport.SourceMap.Vlq
import Mathlib.Data.Nat.Digits.Lemmas

/-!
# The grammar of quantities

A segment is cut into groups: letters of 32 or more, each of which says that more follow, and one
letter below 32 at the end. A group is a number with digits of five bits, lowest first, and its sign
is the lowest bit of that. Reading a segment fails at its first character outside the alphabet, or
else if the segment breaks off inside a group. In all other cases there is one way to cut it into
groups, and reading gives their integers.
-/

namespace LintReport.Vlq

open Base64 (alphabet index)

/-! ## Groups -/

/-- A group: any number of letters of 32 or more, and one below 32 at the end. -/
inductive IsGroup : Text → Prop where
  | last {c : Char} (hc : c ∈ alphabet) (h : index c < 32) : IsGroup [c]
  | more {c : Char} {rest : Text} (hc : c ∈ alphabet) (h : 32 ≤ index c) (hrest : IsGroup rest) :
      IsGroup (c :: rest)

/-- The number of a group. Each letter counts with its five lower bits, and the places rise by a
factor of 32. -/
def groupNumber (group : Text) : Nat :=
  (group.mapIdx fun i c => index c % 32 * 32 ^ i).sum

/-- The integer of a group: half of its number, rounded down, and negative if that is odd. -/
def groupInteger (group : Text) : Int :=
  if Odd (groupNumber group) then -((groupNumber group / 2 : Nat) : Int)
  else ((groupNumber group / 2 : Nat) : Int)

/-- That a segment is cut into groups. -/
structure Splits (segment : Text) (groups : List Text) : Prop where
  flatten_eq : groups.flatten = segment
  isGroup : ∀ group ∈ groups, IsGroup group

/-- What is wrong with a segment that writes no integers: its first character outside the alphabet,
or where there is none, a last letter that says that more follow. -/
inductive HasFault (segment : Text) : Fault → Prop where
  | notADigit {before after : Text} {c : Char} (hsplit : segment = before ++ c :: after)
      (hbefore : ∀ d ∈ before, d ∈ alphabet) (hc : c ∉ alphabet) : HasFault segment (.notADigit c)
  | truncated {last : Char} (hletters : ∀ c ∈ segment, c ∈ alphabet)
      (hlast : segment.getLast? = some last) (hmore : 32 ≤ index last) :
      HasFault segment (.truncated segment)

theorem groupNumber_cons (c : Char) (rest : Text) :
    groupNumber (c :: rest) = index c % 32 + 32 * groupNumber rest := by
  have hdigits : ∀ group, groupNumber group = Nat.ofDigits 32 (group.map fun c => index c % 32) := by
    intro group
    rw [Nat.ofDigits_eq_sum_mapIdx, groupNumber]
    congr 1
    apply List.mapIdx_eq_iff.mpr
    intro i
    rw [List.getElem?_mapIdx, List.getElem?_map, Option.map_map]
    rfl
  rw [hdigits, hdigits, List.map_cons, Nat.ofDigits_cons]

theorem signed_groupNumber (group : Text) : signed (groupNumber group) = groupInteger group := by
  unfold signed groupInteger
  simp only [Nat.odd_iff]

theorem IsGroup.ne_nil {group : Text} (h : IsGroup group) : group ≠ [] := by
  cases h <;> simp

theorem IsGroup.mem_alphabet {group : Text} (h : IsGroup group) : ∀ c ∈ group, c ∈ alphabet := by
  induction h with
  | last hc _ => simpa using hc
  | more hc _ _ ih => exact List.forall_mem_cons.mpr ⟨hc, ih⟩

/-- Where a group ends is seen from its letters, so no group is a proper beginning of another. -/
theorem IsGroup.append_inj {group other : Text} (h : IsGroup group) (hother : IsGroup other)
    {rest rest' : Text} (heq : group ++ rest = other ++ rest') : group = other ∧ rest = rest' := by
  induction h generalizing other with
  | last hc hsmall =>
      cases hother with
      | last hc' hsmall' =>
          obtain ⟨rfl, rfl⟩ := List.cons.inj heq
          exact ⟨rfl, rfl⟩
      | more hc' hlarge' hrest' =>
          obtain ⟨rfl, -⟩ := List.cons.inj heq
          omega
  | more hc hlarge hrest ih =>
      cases hother with
      | last hc' hsmall' =>
          obtain ⟨rfl, -⟩ := List.cons.inj heq
          omega
      | more hc' hlarge' hrest' =>
          obtain ⟨rfl, htail⟩ := List.cons.inj heq
          obtain ⟨rfl, rfl⟩ := ih hrest' htail
          exact ⟨rfl, rfl⟩

/-! ## Cutting a segment -/

variable {segment : Text} {groups : List Text}

theorem Splits.mem_alphabet (h : Splits segment groups) : ∀ c ∈ segment, c ∈ alphabet := by
  intro c hc
  rw [← h.flatten_eq] at hc
  obtain ⟨group, hgroup, hc⟩ := List.mem_flatten.mp hc
  exact (h.isGroup group hgroup).mem_alphabet c hc

/-- There is one way at most to cut a segment. -/
theorem Splits.unique {other : List Text} (h : Splits segment groups)
    (hother : Splits segment other) : groups = other := by
  obtain ⟨rfl, hgroups⟩ := h
  obtain ⟨heq, hothers⟩ := hother
  induction groups generalizing other with
  | nil =>
      cases other with
      | nil => rfl
      | cons first rest =>
          have hfirst : first = [] := by
            simp only [List.flatten_cons, List.flatten_nil, List.append_eq_nil_iff] at heq
            exact heq.1
          exact absurd hfirst (hothers first (by simp)).ne_nil
  | cons group groups ih =>
      obtain ⟨hgroup, htail⟩ := List.forall_mem_cons.mp hgroups
      cases other with
      | nil =>
          simp only [List.flatten_cons, List.flatten_nil] at heq
          exact absurd (List.append_eq_nil_iff.mp heq.symm).1 hgroup.ne_nil
      | cons first rest =>
          obtain ⟨hfirst, hrest⟩ := List.forall_mem_cons.mp hothers
          rw [List.flatten_cons, List.flatten_cons] at heq
          obtain ⟨rfl, hflatten⟩ := hfirst.append_inj hgroup heq
          rw [ih htail hflatten hrest]

/-- A segment of letters can be cut, unless it breaks off. A letter of 32 or more belongs to the
group that follows, and one below 32 is a group. -/
theorem exists_splits (hletters : ∀ c ∈ segment, c ∈ alphabet)
    (hlast : ∀ c, segment.getLast? = some c → index c < 32) : ∃ groups, Splits segment groups := by
  induction segment with
  | nil => exact ⟨[], rfl, by simp⟩
  | cons c rest ih =>
      obtain ⟨hc, hletters⟩ := List.forall_mem_cons.mp hletters
      cases rest with
      | nil =>
          refine ⟨[[c]], rfl, ?_⟩
          simpa using IsGroup.last hc (hlast c rfl)
      | cons d rest =>
          obtain ⟨groups, hflatten, hgroups⟩ := ih hletters fun e he => hlast e (by
            rw [List.getLast?_cons_cons]
            exact he)
          by_cases hsmall : index c < 32
          · refine ⟨[c] :: groups, by rw [List.flatten_cons, hflatten]; rfl, ?_⟩
            exact List.forall_mem_cons.mpr ⟨.last hc hsmall, hgroups⟩
          · cases groups with
            | nil => cases hflatten
            | cons group groups =>
                obtain ⟨hgroup, hgroups⟩ := List.forall_mem_cons.mp hgroups
                refine ⟨(c :: group) :: groups, by rw [← hflatten]; rfl, ?_⟩
                exact List.forall_mem_cons.mpr ⟨.more hc (by omega) hgroup, hgroups⟩

/-! ## Reading a segment -/

def letterNumber (c : Char) : Except Fault Nat :=
  if c ∈ alphabet then .ok (index c) else .error (.notADigit c)

theorem exists_letterNumber_iff {c : Char} :
    (∃ n, letterNumber c = .ok n) ↔ c ∈ alphabet := by
  unfold letterNumber
  split <;> simp_all

theorem letterNumber_eq_error_iff {c : Char} {fault : Fault} :
    letterNumber c = .error fault ↔ c ∉ alphabet ∧ fault = .notADigit c := by
  unfold letterNumber
  split <;> simp_all [eq_comm]

theorem digits_eq_mapM (segment : Text) : digits segment = segment.mapM letterNumber := by
  apply eq_mapM_of_cons
  · rfl
  · intro c rest
    rw [digits, letterNumber]
    by_cases hc : c ∈ alphabet
    · rw [Base64.digit?_of_mem hc, if_pos hc]
    · rw [Base64.digit?_of_not_mem hc, if_neg hc]

theorem digits_of_letters (h : ∀ c ∈ segment, c ∈ alphabet) :
    digits segment = .ok (segment.map index) := by
  obtain ⟨ds, hds⟩ := exists_mapM_iff.mpr fun c hc => exists_letterNumber_iff.mpr (h c hc)
  have hindex : ds.map id = segment.map index := by
    refine map_eq_of_mapM (fun c d hd => ?_) hds
    unfold letterNumber at hd
    split at hd
    · exact (Except.ok.inj hd).symm
    · cases hd
  rw [digits_eq_mapM, hds, ← hindex, List.map_id]

theorem numbers?_group_append {group : Text} (h : IsGroup group) (ds : List Nat) :
    numbers? (group.map index ++ ds) = (numbers? ds).map (groupNumber group :: ·) := by
  induction h with
  | last hc hsmall =>
      rw [groupNumber_cons, Nat.mod_eq_of_lt hsmall, List.map_singleton, List.singleton_append,
        numbers?, if_pos hsmall]
      rfl
  | @more c rest hc hlarge hrest ih =>
      have hdigit : index c - 32 = index c % 32 := by
        have hlt := (Base64.letter_index hc).1
        omega
      rw [groupNumber_cons, List.map_cons, List.cons_append, numbers?, if_neg (by omega), ih,
        hdigit]
      cases numbers? ds <;> rfl

theorem numbers?_of_splits (h : Splits segment groups) :
    numbers? (segment.map index) = some (groups.map groupNumber) := by
  obtain ⟨rfl, hgroups⟩ := h
  induction groups with
  | nil => rfl
  | cons group groups ih =>
      obtain ⟨hgroup, hgroups⟩ := List.forall_mem_cons.mp hgroups
      rw [List.flatten_cons, List.map_append, numbers?_group_append hgroup, ih hgroups]
      rfl

/-- Digits that break off write no numbers, however many groups stand before. -/
theorem numbers?_of_getLast? {ds : List Nat} {last : Nat} (hlast : ds.getLast? = some last)
    (hmore : 32 ≤ last) : numbers? ds = none := by
  induction ds with
  | nil => cases hlast
  | cons d ds ih =>
      cases ds with
      | nil =>
          obtain rfl : d = last := Option.some.inj hlast
          rw [numbers?, if_neg (by omega)]
          rfl
      | cons e ds =>
          rw [List.getLast?_cons_cons] at hlast
          rw [numbers?, ih hlast]
          split <;> rfl

theorem decode_of_splits (h : Splits segment groups) :
    decode segment = .ok (groups.map groupInteger) := by
  rw [decode, digits_of_letters h.mem_alphabet]
  dsimp only
  rw [numbers?_of_splits h]
  simp only [List.map_map, Function.comp_def, signed_groupNumber]

theorem decode_of_hasFault {fault : Fault} (h : HasFault segment fault) :
    decode segment = .error fault := by
  cases h with
  | @notADigit before after c hsplit hbefore hc =>
      have hdigits : digits segment = .error (.notADigit c) := by
        rw [digits_eq_mapM, mapM_eq_error_iff]
        exact ⟨before, c, after, hsplit, fun d hd => exists_letterNumber_iff.mpr (hbefore d hd),
          letterNumber_eq_error_iff.mpr ⟨hc, rfl⟩⟩
      rw [decode, hdigits]
  | @truncated last hletters hlast hmore =>
      have hend : (segment.map index).getLast? = some (index last) := by
        rw [List.getLast?_map, hlast, Option.map_some]
      rw [decode, digits_of_letters hletters]
      dsimp only
      rw [numbers?_of_getLast? hend hmore]

/-- A segment has a fault or can be cut. -/
theorem exists_hasFault_or_splits (segment : Text) :
    (∃ fault, HasFault segment fault) ∨ ∃ groups, Splits segment groups := by
  cases hletters : segment.mapM letterNumber with
  | error fault =>
      obtain ⟨before, c, after, hsplit, hbefore, hfault⟩ := mapM_eq_error_iff.mp hletters
      obtain ⟨hc, rfl⟩ := letterNumber_eq_error_iff.mp hfault
      exact Or.inl ⟨_, .notADigit hsplit
        (fun d hd => exists_letterNumber_iff.mp (hbefore d hd)) hc⟩
  | ok ds =>
      have hall : ∀ c ∈ segment, c ∈ alphabet := fun c hc =>
        exists_letterNumber_iff.mp (exists_mapM_iff.mp ⟨ds, hletters⟩ c hc)
      by_cases hlast : ∀ c, segment.getLast? = some c → index c < 32
      · exact Or.inr (exists_splits hall hlast)
      · push Not at hlast
        obtain ⟨c, hc, hmore⟩ := hlast
        exact Or.inl ⟨_, .truncated hall hc hmore⟩

/-- Reading a segment fails with its fault, if it has one. If it has none, it can be cut into groups
in one way, and reading gives the integers of these groups in their order. -/
theorem decode_eq_groups (segment : Text) :
    (∀ fault, decode segment = .error fault ↔ HasFault segment fault) ∧
      ((∀ fault, ¬HasFault segment fault) →
        ∃ groups, Splits segment groups ∧ (∀ other, Splits segment other → other = groups) ∧
          decode segment = .ok (groups.map groupInteger)) := by
  constructor
  · intro fault
    constructor
    · intro hdecode
      rcases exists_hasFault_or_splits segment with ⟨found, hfound⟩ | ⟨groups, hgroups⟩
      · rw [decode_of_hasFault hfound] at hdecode
        obtain rfl := Except.error.inj hdecode
        exact hfound
      · rw [decode_of_splits hgroups] at hdecode
        cases hdecode
    · exact decode_of_hasFault
  · intro hnone
    rcases exists_hasFault_or_splits segment with ⟨fault, hfault⟩ | ⟨groups, hgroups⟩
    · exact absurd hfault (hnone fault)
    · exact ⟨groups, hgroups, fun other hother => hother.unique hgroups, decode_of_splits hgroups⟩

/-- A segment of three groups. The second is minus zero, with a digit more than that needs. -/
def paddedSegment : Text := "2HhAC"

theorem splits_paddedSegment : Splits paddedSegment ["2H".toList, "hA".toList, "C".toList] where
  flatten_eq := rfl
  isGroup := by
    simp only [List.forall_mem_cons, List.not_mem_nil, false_imp_iff, implies_true, and_true]
    exact ⟨.more (by decide) (by decide) (.last (by decide) (by decide)),
      .more (by decide) (by decide) (.last (by decide) (by decide)),
      .last (by decide) (by decide)⟩

theorem decode_eq_groups_paddedSegment :
    (∀ fault, ¬HasFault paddedSegment fault) ∧ decode paddedSegment = .ok [123, 0, 1] := by
  have hnone : ∀ fault, ¬HasFault paddedSegment fault := by
    intro fault hfault
    have hdecode := decode_of_hasFault hfault
    rw [decode_of_splits splits_paddedSegment] at hdecode
    cases hdecode
  obtain ⟨groups, -, hunique, hdecode⟩ := (decode_eq_groups paddedSegment).2 hnone
  rw [← hunique _ splits_paddedSegment] at hdecode
  exact ⟨hnone, hdecode.trans (by decide)⟩

end LintReport.Vlq
