import LintReport.Proofs.SourceMap.Directive

/-!
# The pattern of directives

A directive is what a pattern matches: two slashes, a number sign or an at sign, blanks, the keyword,
a value within its line, blanks, and the end of a line. Both runs of blanks may go on over line
breaks. The values found in a text are those of matches from left to right that do not overlap, so
there are none exactly where the pattern matches nowhere. Such a text may follow the last directive
of another; all that stands before that directive, and all that its own value contains, makes no
difference.
-/

namespace LintReport.Directive

inductive Matches : Text → Prop where
  | intro {marker : Char} {blanks value after rest : Text} (hmarker : marker = '#' ∨ marker = '@')
      (hblanks : ∀ c ∈ blanks, Text.isBlank c = true) (hvalue : '\n' ∉ value)
      (hafter : ∀ c ∈ after, Text.isBlank c = true) (hrest : Text.AtLineEnd rest) :
      Matches ('/' :: '/' :: marker :: (blanks ++ (keyword ++ (value ++ (after ++ rest)))))

def HasMatch (t : Text) : Prop :=
  ∃ tail, tail <:+ t ∧ Matches tail

theorem matches_iff {t : Text} : Matches t ↔ ∃ body, body? t = some body := by
  constructor
  · rintro ⟨hmarker, hblanks, -, -, -⟩
    exact ⟨_, body?_directive hmarker hblanks _⟩
  · rintro ⟨body, hbody⟩
    unfold body? at hbody
    split at hbody
    · next marker rest =>
        split at hbody
        · next hmarker =>
            -- the value is the rest of the line, and nothing is left for the blanks after it
            have hrest : rest = rest.takeWhile Text.isBlank ++
                (keyword ++ (body.takeWhile (· ≠ '\n') ++ ([] ++ body.dropWhile (· ≠ '\n')))) := by
              rw [List.nil_append, List.takeWhile_append_dropWhile,
                ← Text.append_of_dropStart? hbody]
              exact List.takeWhile_append_dropWhile.symm
            rw [hrest]
            refine .intro hmarker (fun c hc => ?_) (fun hmem => ?_) (by simp)
              (Text.atLineEnd_dropWhile body)
            · exact List.mem_takeWhile_imp hc
            · simpa using List.mem_takeWhile_imp hmem
        · cases hbody
    · cases hbody

/-- A text gives values unless the pattern matches nowhere in it. -/
theorem values_eq_nil_iff {t : Text} : values t = [] ↔ ¬HasMatch t := by
  induction t with
  | nil =>
      have hnone : ¬HasMatch [] := by
        rintro ⟨tail, htail, hmatches⟩
        obtain rfl := List.suffix_nil.mp htail
        cases hmatches
      exact iff_of_true (by rw [values]) hnone
  | cons c rest ih =>
      cases hbody : body? (c :: rest) with
      | some body =>
          have hmatch : HasMatch (c :: rest) := ⟨_, List.suffix_rfl, matches_iff.mpr ⟨body, hbody⟩⟩
          rw [values_of_body?_some hbody]
          exact iff_of_false (List.cons_ne_nil _ _) (not_not_intro hmatch)
      | none =>
          rw [values_of_body?_none hbody, ih]
          apply not_congr
          constructor
          · rintro ⟨tail, htail, hmatches⟩
            exact ⟨tail, htail.trans (List.suffix_cons c rest), hmatches⟩
          · rintro ⟨tail, htail, hmatches⟩
            rcases List.suffix_cons_iff.mp htail with rfl | htail
            · obtain ⟨body, hsome⟩ := matches_iff.mp hmatches
              rw [hbody] at hsome
              cases hsome
            · exact ⟨tail, htail, hmatches⟩

/-- The last directive of a text gives the answer: its value, or none if that is empty. It may be
followed by blanks, and from a line break on by a text without a match. -/
theorem find?_last_directive {marker : Char} {blanks value after rest : Text}
    (hmarker : marker = '#' ∨ marker = '@') (hblanks : ∀ c ∈ blanks, Text.isBlank c = true)
    (hbreak : '\n' ∉ value) (hvalue : ∀ c, value.getLast? = some c → Text.isBlank c = false)
    (hafter : ∀ c ∈ after, Text.isBlank c = true)
    (hrest : rest = [] ∨ ∃ later, rest = '\n' :: later ∧ ¬HasMatch later) (before : Text) :
    find? (before ++ '\n' ::
        '/' :: '/' :: marker :: (blanks ++ (keyword ++ (value ++ (after ++ rest))))) =
      if value = [] then none else some value := by
  have hend : Text.AtLineEnd rest := by
    rcases hrest with rfl | ⟨later, rfl, -⟩
    · exact Or.inl rfl
    · exact Or.inr ⟨later, rfl⟩
  have hnone : values rest = [] := by
    rcases hrest with rfl | ⟨later, rfl, hlater⟩
    · rw [values]
    · have hbody : body? ('\n' :: later) = none := by simp [body?]
      rw [values_of_body?_none hbody]
      exact values_eq_nil_iff.mpr hlater
  exact find?_of_values_eq_nil hmarker hblanks hbreak (Text.trimEnd_of_getLast? hvalue) hafter
    hend hnone before

/-- The lines before the last directive of `nestedText`: two directives, and the marker of one. -/
def earlierLines : Text := "//# sourceMappingURL=a.map\n//# sourceMappingURL=\n//@"

/-- A text whose last directive has the beginning of another one in its value. Only a marker stands on
the line after it. -/
def nestedText : Text :=
  earlierLines ++ "\n//@ \n\tsourceMappingURL=b//# sourceMappingURL=c \n \n//#".toList

theorem find?_last_directive_nestedText :
    ¬HasMatch "//#" ∧ find? nestedText = some "b//# sourceMappingURL=c".toList := by
  have hlater : ¬HasMatch ['/', '/', '#'] := by
    rw [← values_eq_nil_iff, values_of_body?_none (by decide), values_of_body?_none (by decide),
      values_of_body?_none (by decide), values]
  have hvalue : ∀ c, "b//# sourceMappingURL=c".toList.getLast? = some c →
      Text.isBlank c = false := by
    intro c hc
    obtain rfl : 'c' = c := Option.some.inj hc
    decide
  exact ⟨hlater, @find?_last_directive '@' " \n\t" "b//# sourceMappingURL=c" " \n " "\n//#"
    (Or.inr rfl) (List.all_eq_true.mp (by decide)) (by decide) hvalue
    (List.all_eq_true.mp (by decide)) (Or.inr ⟨_, rfl, hlater⟩) earlierLines⟩

end LintReport.Directive
