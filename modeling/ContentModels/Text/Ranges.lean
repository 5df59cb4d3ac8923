/-!
# Ranges of character codes

A Unicode property is held as the list of the inclusive ranges of codes that have it.
-/

namespace ContentModels.Text

/-- Inclusive ranges of character codes. -/
abbrev CodeRanges := List (Nat × Nat)

/-- Whether a code lies in one of the ranges. -/
def CodeRanges.has (ranges : CodeRanges) (code : Nat) : Bool :=
  ranges.any fun (first, last) => first ≤ code && code ≤ last

theorem CodeRanges.has_eq_true_iff (ranges : CodeRanges) (code : Nat) :
    ranges.has code = true ↔ ∃ r ∈ ranges, r.1 ≤ code ∧ code ≤ r.2 := by
  simp [CodeRanges.has]

end ContentModels.Text
