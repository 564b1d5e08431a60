/-!
# Sets of code points

A set is written as the ascending list of its bounds: the first code point of a span, the first
one after it, the first of the next span, and so on.
-/

namespace IdentityClaims.Text

/-- Membership of a code point in the set with the given bounds. -/
def inSpans (bounds : List Nat) (code : Nat) : Bool :=
  (bounds.takeWhile (· ≤ code)).length % 2 == 1

theorem inSpans_nil (code : Nat) : inSpans [] code = false := rfl

/-- A code point from the first bound on lies before the second one or where the others tell. -/
theorem inSpans_cons_cons_iff (first next : Nat) (bounds : List Nat) (code : Nat) :
    inSpans (first :: next :: bounds) code ↔
      first ≤ code ∧ (code < next ∨ inSpans bounds code) := by
  unfold inSpans
  by_cases reached : first ≤ code
  · by_cases passed : next ≤ code
    · have later := Nat.not_lt.mpr passed
      simp [reached, passed, later, Nat.add_assoc]
    · simp [reached, passed, Nat.not_le.mp passed]
  · simp [reached]

end IdentityClaims.Text
