/-!
# Bisection

The point where a test changes from true to false along a range of indices, found by halving. The
answer is meaningful for a test that is true of a beginning of the range and false of the rest.
-/

namespace LintReport

/-- The first index from `lo` up to `hi` of which the test is not true. -/
def partitionPoint (test : Nat → Bool) (lo hi : Nat) : Nat :=
  if lo < hi then
    let middle := (lo + hi) / 2
    if test middle then partitionPoint test (middle + 1) hi else partitionPoint test lo middle
  else lo
termination_by hi - lo
decreasing_by all_goals omega

end LintReport
