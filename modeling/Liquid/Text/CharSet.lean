/-!
# Sets of characters

A set of characters is a list of intervals of code points, ends included.
-/

namespace Liquid.Text

/-- A set of characters, as intervals of code points with both ends included. -/
abbrev CharSet := List (Nat × Nat)

/-- Membership of a character in one of the intervals. -/
def CharSet.contains (s : CharSet) (c : Char) : Bool :=
  s.any fun i => i.1 ≤ c.toNat && c.toNat ≤ i.2

@[simp] theorem CharSet.contains_nil (c : Char) : CharSet.contains [] c = false := rfl

theorem CharSet.contains_eq_true_iff {s : CharSet} {c : Char} :
    s.contains c = true ↔ ∃ i ∈ s, i.1 ≤ c.toNat ∧ c.toNat ≤ i.2 := by
  simp [CharSet.contains]

end Liquid.Text
