import LintReport.Proofs.SourceMap.Quantities
import LintReport.Proofs.SourceMap.Vlq

/-!
# Canonical segments

Different segments may write the same integers, in two ways only: a group may end in a letter that
adds nothing, and zero may have a sign. A segment without such groups is canonical. What a segment
reads as is written in no more letters than it has, and in the same letters if and only if it is
canonical. So every sequence of integers has one canonical segment.
-/

namespace LintReport.Vlq

open Base64 (alphabet index letter)

/-! ## Canonical groups -/

/-- A group whose last letter adds nothing: it is zero, and others stand before it. -/
def IsPadded (group : Text) : Prop :=
  2 ≤ group.length ∧ ∃ last, group.getLast? = some last ∧ index last = 0

/-- A group that writes zero with a sign. -/
def IsMinusZero (group : Text) : Prop :=
  groupInteger group = 0 ∧ Odd (groupNumber group)

/-- That a segment has no group of either kind. -/
def IsCanonical (segment : Text) : Prop :=
  ∃ groups, Splits segment groups ∧ ∀ group ∈ groups, ¬IsPadded group ∧ ¬IsMinusZero group

/-- The standard form of the integer of a group. -/
def canonicalGroup (group : Text) : Text :=
  (numberDigits (unsigned (groupInteger group))).map letter

theorem isMinusZero_iff {group : Text} : IsMinusZero group ↔ groupNumber group = 1 := by
  unfold IsMinusZero groupInteger
  constructor
  · rintro ⟨hzero, hodd⟩
    rw [if_pos hodd] at hzero
    have := Nat.odd_iff.mp hodd
    omega
  · intro hone
    rw [hone]
    decide

/-- Only the sign of minus zero is lost between a number and its integer. -/
theorem unsigned_groupInteger (group : Text) :
    unsigned (groupInteger group) = if groupNumber group = 1 then 0 else groupNumber group := by
  rw [← signed_groupNumber]
  unfold unsigned signed
  split <;> split <;> split <;> omega

theorem numberDigits_of_lt {n : Nat} (h : n < 32) : numberDigits n = [n] := by
  rw [numberDigits, if_pos h]

theorem numberDigits_add_mul {d n : Nat} (hd : d < 32) (hn : n ≠ 0) :
    numberDigits (d + 32 * n) = (d + 32) :: numberDigits n := by
  rw [numberDigits, if_neg (by omega)]
  congr 2 <;> omega

theorem length_numberDigits_add_mul_le {d : Nat} (hd : d < 32) (n : Nat) :
    (numberDigits (d + 32 * n)).length ≤ (numberDigits n).length + 1 := by
  by_cases hn : n = 0
  · rw [hn, Nat.mul_zero, Nat.add_zero, numberDigits_of_lt hd]
    exact Nat.le_add_left 1 _
  · rw [numberDigits_add_mul hd hn, List.length_cons]

theorem groupNumber_pos {group : Text} {last : Char} (h : IsGroup group)
    (hlast : group.getLast? = some last) (hne : index last ≠ 0) : 0 < groupNumber group := by
  induction h with
  | @last c hc hsmall =>
      obtain rfl : c = last := Option.some.inj hlast
      rw [groupNumber_cons, Nat.mod_eq_of_lt hsmall]
      omega
  | more hc hlarge hrest ih =>
      rw [List.getLast?_cons_of_ne_nil hrest.ne_nil] at hlast
      have := ih hlast
      rw [groupNumber_cons]
      omega

theorem isPadded_cons_iff {c : Char} {rest : Text} (h : rest ≠ []) :
    IsPadded (c :: rest) ↔ ∃ last, rest.getLast? = some last ∧ index last = 0 := by
  have hlength := List.length_pos_of_ne_nil h
  rw [IsPadded, List.getLast?_cons_of_ne_nil h, List.length_cons]
  exact and_iff_right (by omega)

/-- Without a letter that adds nothing, a group consists of the fewest digits of its number. -/
theorem map_letter_numberDigits {group : Text} (h : IsGroup group) (hpadded : ¬IsPadded group) :
    (numberDigits (groupNumber group)).map letter = group := by
  induction h with
  | @last c hc hsmall =>
      have hnumber : groupNumber [c] = index c := by
        rw [groupNumber_cons, Nat.mod_eq_of_lt hsmall]
        rfl
      rw [hnumber, numberDigits_of_lt hsmall, List.map_singleton, (Base64.letter_index hc).2]
  | @more c rest hc hlarge hrest ih =>
      rw [isPadded_cons_iff hrest.ne_nil] at hpadded
      obtain ⟨hlt, hletter⟩ := Base64.letter_index hc
      have hpos : groupNumber rest ≠ 0 := by
        have hlast := List.getLast?_eq_some_getLast hrest.ne_nil
        have := groupNumber_pos hrest hlast fun hzero => hpadded ⟨_, hlast, hzero⟩
        omega
      rw [groupNumber_cons, numberDigits_add_mul (Nat.mod_lt _ (by omega)) hpos,
        show index c % 32 + 32 = index c by omega, List.map_cons, hletter,
        ih fun hp => hpadded hp.2]

/-- With such a letter a group has more letters than its number has digits. -/
theorem length_numberDigits_lt {group : Text} (h : IsGroup group) (hpadded : IsPadded group) :
    (numberDigits (groupNumber group)).length < group.length := by
  induction h with
  | last hc hsmall => exact absurd hpadded.1 (by simp)
  | @more c rest hc hlarge hrest ih =>
      have hzero := (isPadded_cons_iff hrest.ne_nil).mp hpadded
      have hle := length_numberDigits_add_mul_le (Nat.mod_lt (index c) (by omega : 0 < 32))
        (groupNumber rest)
      rw [groupNumber_cons, List.length_cons]
      cases hrest with
      | @last d hd hsmall =>
          obtain ⟨last, hlast, hzero⟩ := hzero
          obtain rfl : d = last := Option.some.inj hlast
          have hnumber : groupNumber [d] = 0 := by
            rw [groupNumber_cons, hzero]
            rfl
          rw [hnumber, Nat.mul_zero, Nat.add_zero, numberDigits_of_lt (Nat.mod_lt _ (by omega))]
          simp
      | @more d rest hd hlarge' hrest' =>
          have := ih ((isPadded_cons_iff hrest'.ne_nil).mpr (by
            rwa [List.getLast?_cons_of_ne_nil hrest'.ne_nil] at hzero))
          omega

theorem canonicalGroup_of_isMinusZero {group : Text} (h : IsMinusZero group) :
    canonicalGroup group = ['A'] := by
  rw [canonicalGroup, unsigned_groupInteger, if_pos (isMinusZero_iff.mp h),
    numberDigits_of_lt (by omega)]
  rfl

theorem canonicalGroup_of_not_isMinusZero {group : Text} (h : ¬IsMinusZero group) :
    canonicalGroup group = (numberDigits (groupNumber group)).map letter := by
  rw [canonicalGroup, unsigned_groupInteger, if_neg fun hone => h (isMinusZero_iff.mpr hone)]

theorem length_canonicalGroup_le {group : Text} (h : IsGroup group) :
    (canonicalGroup group).length ≤ group.length := by
  by_cases hzero : IsMinusZero group
  · rw [canonicalGroup_of_isMinusZero hzero]
    exact List.length_pos_of_ne_nil h.ne_nil
  · rw [canonicalGroup_of_not_isMinusZero hzero]
    by_cases hpadded : IsPadded group
    · rw [List.length_map]
      exact Nat.le_of_lt (length_numberDigits_lt h hpadded)
    · rw [map_letter_numberDigits h hpadded]

theorem canonicalGroup_eq_self_iff {group : Text} (h : IsGroup group) :
    canonicalGroup group = group ↔ ¬IsPadded group ∧ ¬IsMinusZero group := by
  by_cases hzero : IsMinusZero group
  · rw [canonicalGroup_of_isMinusZero hzero]
    constructor
    · rintro rfl
      exact absurd (isMinusZero_iff.mp hzero) (by decide)
    · rintro ⟨-, hnot⟩
      exact absurd hzero hnot
  · rw [canonicalGroup_of_not_isMinusZero hzero]
    by_cases hpadded : IsPadded group
    · constructor
      · intro heq
        have hlt := length_numberDigits_lt h hpadded
        have hlength := congrArg List.length heq
        rw [List.length_map] at hlength
        omega
      · rintro ⟨hnot, -⟩
        exact absurd hpadded hnot
    · exact iff_of_true (map_letter_numberDigits h hpadded) ⟨hpadded, hzero⟩

/-! ## Canonical segments -/

theorem encode_groups (groups : List Text) :
    encode (groups.map groupInteger) = groups.flatMap canonicalGroup := by
  rw [encode, List.flatMap_map, List.map_flatMap]
  rfl

/-- Pieces that are replaced by pieces no longer make up a text that is no longer, and the same text
only if each of them stays the same. -/
theorem flatMap_eq_flatten_iff {f : Text → Text} {groups : List Text}
    (h : ∀ group ∈ groups, (f group).length ≤ group.length) :
    (groups.flatMap f).length ≤ groups.flatten.length ∧
      (groups.flatMap f = groups.flatten ↔ ∀ group ∈ groups, f group = group) := by
  induction groups with
  | nil => simp
  | cons group groups ih =>
      obtain ⟨hgroup, hgroups⟩ := List.forall_mem_cons.mp h
      obtain ⟨hle, hiff⟩ := ih hgroups
      rw [List.flatMap_cons, List.flatten_cons, List.forall_mem_cons, ← hiff]
      constructor
      · simp only [List.length_append]
        omega
      · constructor
        · intro heq
          have hlength := congrArg List.length heq
          simp only [List.length_append] at hlength
          exact List.append_inj heq (by omega)
        · rintro ⟨hhead, htail⟩
          rw [hhead, htail]

variable {segment : Text} {groups : List Text}

theorem Splits.length_encode_le (h : Splits segment groups) :
    (encode (groups.map groupInteger)).length ≤ segment.length := by
  rw [encode_groups, ← h.flatten_eq]
  exact (flatMap_eq_flatten_iff fun group hgroup =>
    length_canonicalGroup_le (h.isGroup group hgroup)).1

theorem Splits.encode_eq_iff (h : Splits segment groups) :
    encode (groups.map groupInteger) = segment ↔ IsCanonical segment := by
  have hiff := (flatMap_eq_flatten_iff fun group hgroup =>
    length_canonicalGroup_le (h.isGroup group hgroup)).2
  rw [h.flatten_eq, ← encode_groups] at hiff
  rw [hiff]
  constructor
  · intro hall
    exact ⟨groups, h, fun group hgroup =>
      (canonicalGroup_eq_self_iff (h.isGroup group hgroup)).mp (hall group hgroup)⟩
  · rintro ⟨other, hother, hcanonical⟩
    obtain rfl := h.unique hother
    intro group hgroup
    exact (canonicalGroup_eq_self_iff (h.isGroup group hgroup)).mpr (hcanonical group hgroup)

/-- What is read without a fault is cut into groups. -/
theorem exists_splits_of_decode {vs : List Int} (h : decode segment = .ok vs) :
    ∃ groups, Splits segment groups ∧ vs = groups.map groupInteger := by
  rcases exists_hasFault_or_splits segment with ⟨fault, hfault⟩ | ⟨groups, hgroups⟩
  · rw [decode_of_hasFault hfault] at h
    cases h
  · rw [decode_of_splits hgroups] at h
    exact ⟨groups, hgroups, (Except.ok.inj h).symm⟩

theorem exists_decode_of_isCanonical (h : IsCanonical segment) :
    ∃ vs, decode segment = .ok vs ∧ encode vs = segment := by
  obtain ⟨groups, hgroups, -⟩ := id h
  exact ⟨_, decode_of_splits hgroups, hgroups.encode_eq_iff.mpr h⟩

theorem isCanonical_encode (vs : List Int) : IsCanonical (encode vs) := by
  obtain ⟨groups, hgroups, hvs⟩ := exists_splits_of_decode (decode_encode vs)
  exact hgroups.encode_eq_iff.mp (by rw [← hvs])

/-- Integers are read from what they were written as. Writing what a segment reads as makes it no
longer, and leaves it as it is if and only if it is canonical; so different canonical segments never
read as the same integers. -/
theorem encode_eq_iff_isCanonical :
    (∀ vs, decode (encode vs) = .ok vs) ∧
      (∀ segment vs, decode segment = .ok vs →
        (encode vs).length ≤ segment.length ∧ (encode vs = segment ↔ IsCanonical segment)) ∧
      ∀ segment other, IsCanonical segment → IsCanonical other → segment ≠ other →
        decode segment ≠ decode other := by
  refine ⟨decode_encode, ?_, ?_⟩
  · intro segment vs hdecode
    obtain ⟨groups, hgroups, rfl⟩ := exists_splits_of_decode hdecode
    exact ⟨hgroups.length_encode_le, hgroups.encode_eq_iff⟩
  · intro segment other hsegment hother hne heq
    obtain ⟨vs, hvs, hencode⟩ := exists_decode_of_isCanonical hsegment
    obtain ⟨ws, hws, hencode'⟩ := exists_decode_of_isCanonical hother
    rw [hvs, hws] at heq
    obtain rfl := Except.ok.inj heq
    exact hne (hencode.symm.trans hencode')

theorem encode_eq_iff_isCanonical_paddedSegment :
    decode paddedSegment = .ok [123, 0, 1] ∧ ¬IsCanonical paddedSegment ∧
      IsCanonical "2HAC" ∧ IsCanonical "2HAD" ∧ decode "2HAC" ≠ decode "2HAD" := by
  have hplus : encode [123, 0, 1] = "2HAC" := by decide +kernel
  have hminus : encode [123, 0, -1] = "2HAD" := by decide +kernel
  have hdecode : decode paddedSegment = .ok [123, 0, 1] := by decide
  have hcanonical := isCanonical_encode [123, 0, 1]
  have hcanonical' := isCanonical_encode [123, 0, -1]
  rw [hplus] at hcanonical
  rw [hminus] at hcanonical'
  refine ⟨hdecode, ?_, hcanonical, hcanonical',
    encode_eq_iff_isCanonical.2.2 _ _ hcanonical hcanonical' (by decide)⟩
  rw [← (encode_eq_iff_isCanonical.2.1 _ _ hdecode).2, hplus]
  decide

end LintReport.Vlq
