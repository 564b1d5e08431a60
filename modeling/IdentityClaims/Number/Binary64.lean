import IdentityClaims.Number.Decimal
import IdentityClaims.Number.Power

/-!
# Finite 64-bit doubles

A finite double is a sign, a significand of at most 53 bits and a power of two. The form is
unique, so two doubles are equal exactly when they have the same bits. Reading a ratio rounds
to the nearest double, ties to the even significand.
-/

namespace IdentityClaims.Number

/-- The significand and exponent of a finite double: a full significand, except at the least
exponent, which carries the subnormal numbers and zero. -/
def Canonical (significand : Nat) (exponent : Int) : Prop :=
  significand < twoTo 53 ∧ -1074 ≤ exponent ∧ exponent ≤ 971 ∧
    (twoTo 52 ≤ significand ∨ exponent = -1074)

instance (significand : Nat) (exponent : Int) : Decidable (Canonical significand exponent) :=
  inferInstanceAs (Decidable (_ ∧ _))

/-- The finite double `± significand · 2 ^ exponent`. -/
structure Binary64 where
  negative : Bool
  significand : Nat
  exponent : Int
  canonical : Canonical significand exponent
  deriving DecidableEq, Repr

namespace Binary64

def zero (negative : Bool) : Binary64 :=
  ⟨negative, 0, -1074, by decide⟩

/-- The exponent of the double grid around a positive ratio: the one that leaves the quotient
53 bits, but never below the least. -/
def gridExponent (num den : Nat) : Int :=
  let estimate : Int := (Nat.log2 num : Int) - Nat.log2 den - 53
  let quotient := if estimate < 0 then num * twoTo (-estimate).toNat / den
    else num / (den * twoTo estimate.toNat)
  max (if quotient < twoTo 53 then estimate else estimate + 1) (-1074)

/-- The quotient rounded to the nearest natural number, a tie to the even neighbour. -/
def divNearest (num den : Nat) : Nat :=
  let quotient := num / den
  let twice := 2 * (num % den)
  if twice < den || (twice == den && quotient % 2 == 0) then quotient else quotient + 1

/-- The double nearest to `± num / den`, or none when that lies past the largest double. -/
def ofRatio? (negative : Bool) (num den : Nat) : Option Binary64 :=
  if num = 0 then some (zero negative) else
  let exponent := gridExponent num den
  let significand := if exponent < 0 then divNearest (num * twoTo (-exponent).toNat) den
    else divNearest num (den * twoTo exponent.toNat)
  let (significand, exponent) :=
    if significand = twoTo 53 then (twoTo 52, exponent + 1) else (significand, exponent)
  if canonical : Canonical significand exponent then
    some ⟨negative, significand, exponent, canonical⟩
  else none

/-- The double nearest to `± coefficient · 10 ^ scale`, or none when that overflows. Scales far
outside the range of doubles are answered from the number of digits alone. -/
def ofDecimal? (negative : Bool) (coefficient : Nat) (scale : Int) : Option Binary64 :=
  let order : Int := (digits coefficient).length + scale
  if coefficient = 0 || order < -330 then some (zero negative)
  else if order > 310 then none
  else if scale < 0 then ofRatio? negative coefficient (tenTo (-scale).toNat)
  else ofRatio? negative (coefficient * tenTo scale.toNat) 1

/-- Numerator and denominator of the absolute value. -/
def ratio (x : Binary64) : Nat × Nat :=
  if x.exponent < 0 then (x.significand, twoTo (-x.exponent).toNat)
  else (x.significand * twoTo x.exponent.toNat, 1)

/-- The absolute value rounded to an integer, a half upwards. -/
def roundedMagnitude (x : Binary64) : Nat :=
  let (num, den) := x.ratio
  (2 * num + den) / (2 * den)

/-- The value rounded to an integer, a half away from zero. -/
def round (x : Binary64) : Int :=
  if x.negative then -(x.roundedMagnitude : Int) else x.roundedMagnitude

end Binary64

end IdentityClaims.Number
