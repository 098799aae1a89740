/-!
# Sets of characters

A set is a list of closed ranges of code points. Membership is what the predicates built on it
promise; the ranges need be neither sorted nor disjoint.
-/

namespace TraceView.Text

abbrev CharSet := List (Nat × Nat)

def CharSet.has (ranges : CharSet) (c : Char) : Bool :=
  ranges.any fun r => r.1 ≤ c.toNat && c.toNat ≤ r.2

theorem CharSet.has_iff (ranges : CharSet) (c : Char) :
    ranges.has c = true ↔ ∃ r ∈ ranges, r.1 ≤ c.toNat ∧ c.toNat ≤ r.2 := by
  simp [CharSet.has, List.any_eq_true]

end TraceView.Text
