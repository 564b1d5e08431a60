import IdentityClaims.Number.Binary64

/-!
# Shortest decimal form of a double

The fewest significant digits that read back as the same double, and of those the nearest to
its value; of two equally near ones the one farther from zero.
-/

namespace IdentityClaims.Number

/-- A decimal `coefficient · 10 ^ scale`. -/
structure Decimal where
  coefficient : Nat
  scale : Int
  deriving DecidableEq, Repr

namespace Decimal

/-- A decimal without an exponent: its digits with the point among them, and zeros on the side
where the digits do not reach it. No point is written after a whole number. -/
def positional (d : Decimal) : List Char :=
  let body := digits d.coefficient
  if d.scale ≥ 0 then body ++ List.replicate d.scale.toNat '0'
  else
    let places := (-d.scale).toNat
    let padded := List.replicate (places + 1 - body.length) '0' ++ body
    padded.take (padded.length - places) ++ '.' :: padded.drop (padded.length - places)

end Decimal

namespace Binary64

/-- A decimal reads back as a double of the same absolute value. -/
def readsBack (x : Binary64) (d : Decimal) : Bool :=
  ofDecimal? x.negative d.coefficient d.scale == some x

/-- The two neighbours of a nonzero double on the decimal grid of a scale. -/
def neighbours (x : Binary64) (scale : Int) : Decimal × Decimal :=
  let (num, den) := x.ratio
  let below := if scale < 0 then num * tenTo (-scale).toNat / den
    else num / (den * tenTo scale.toNat)
  (⟨below, scale⟩, ⟨below + 1, scale⟩)

/-- Whether the upper neighbour is at least as near to the double as the lower one. -/
def nearerAbove (x : Binary64) (below : Decimal) : Bool :=
  let (num, den) := x.ratio
  let middle := 2 * below.coefficient + 1
  if below.scale < 0 then 2 * num * tenTo (-below.scale).toNat ≥ middle * den
  else 2 * num ≥ middle * den * tenTo below.scale.toNat

/-- The neighbour on the grid of a scale that reads back; of two the nearer, in a tie the upper. -/
def onGrid? (x : Binary64) (scale : Int) : Option Decimal :=
  let (below, above) := x.neighbours scale
  if x.readsBack below then
    if x.readsBack above && x.nearerAbove below then some above else some below
  else if x.readsBack above then some above else none

/-- Scale of the leading digit of a nonzero double. -/
def leadingScale (x : Binary64) : Int :=
  let (num, den) := x.ratio
  if den ≤ num then ((digits (num / den)).length : Int) - 1
  else -((digits (den / num)).length : Int)

/-- The shortest decimal that reads back. Seventeen digits always do. The search starts one grid
above the leading digit, as a power of ten just above the double may be what reads back. -/
def shortest (x : Binary64) : Decimal :=
  if x.significand = 0 then ⟨0, 0⟩
  else ((List.range 19).findSome? fun (k : Nat) => x.onGrid? (x.leadingScale + 1 - k)).getD ⟨0, 0⟩

/-- The shortest positional text, with a minus sign in front of negative numbers and of
negative zero. -/
def text (x : Binary64) : List Char :=
  let body := x.shortest.positional
  if x.negative then '-' :: body else body

end Binary64

end IdentityClaims.Number
