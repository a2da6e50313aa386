import Relay.Power

/-!
# Finite binary64 numbers, exactly

A number of the interchange format binary64 is kept as a sign and two natural numbers: it stands for
`mantissa * 2 ^ scale` *units*, where a unit is `2 ^ (-1074)`, the smallest positive number of the
format. The fields say that the form is unique (up to the sign of zero), so equality of values is
equality of numbers. Only finite numbers are represented; an operation whose result would be
infinite answers `none`.

All rounding is to nearest, ties to even, and goes through `ofUnits`.
-/

namespace Relay

/-- A finite binary64 number. -/
structure Binary64 where
  negative : Bool
  mantissa : Nat
  scale : Nat
  mantissa_lt : mantissa < twoTo 53 := by decide
  normal : scale = 0 ∨ twoTo 52 ≤ mantissa := by decide
  scale_le : scale ≤ 2045 := by decide
  deriving DecidableEq, Repr

namespace Binary64

/-! ## 1. Rounding -/

/-- The quotient to nearest, ties to even. -/
def divNearest (a b : Nat) : Nat :=
  if 2 * (a % b) < b ∨ (2 * (a % b) = b ∧ a / b % 2 = 0) then a / b else a / b + 1

/-- Zero with a sign. -/
def zero (negative : Bool) : Binary64 := { negative, mantissa := 0, scale := 0 }

/-- The number nearest to `a / b` units, or `none` when that is not finite. -/
def ofUnits (negative : Bool) (a b : Nat) : Option Binary64 :=
  let scale := (a / b).log2 - 52
  let mantissa := divNearest a (b * twoTo scale)
  if h : mantissa < twoTo 53 ∧ (scale = 0 ∨ twoTo 52 ≤ mantissa) ∧ scale ≤ 2045 then
    some ⟨negative, mantissa, scale, h.1, h.2.1, h.2.2⟩
  else if h : mantissa = twoTo 53 ∧ scale + 1 ≤ 2045 then
    some ⟨negative, twoTo 52, scale + 1, by decide, .inr (Nat.le_refl _), h.2⟩
  else none

/-- The number nearest to the fraction `a / b`. -/
def ofRatio (negative : Bool) (a b : Nat) : Option Binary64 :=
  ofUnits negative (a * twoTo 1074) b

/-- The size of a number, in units. -/
def units (x : Binary64) : Nat :=
  x.mantissa * twoTo x.scale

/-- Whether a number is zero, of either sign. -/
def isZero (x : Binary64) : Bool :=
  x.mantissa == 0

/-! ## 2. Arithmetic -/

/-- The product. -/
def mul (x y : Binary64) : Option Binary64 :=
  ofUnits (x.negative != y.negative) (x.units * y.units) (twoTo 1074)

/-- The quotient by a number that is not zero. -/
def div (x y : Binary64) : Option Binary64 :=
  ofUnits (x.negative != y.negative) (x.units * twoTo 1074) y.units

/-- The number with the given sign. -/
def withSign (x : Binary64) (negative : Bool) : Binary64 :=
  { x with negative }

/-! ## 3. Reading decimals -/

/-- The number nearest to `digits * 10 ^ exponent`. Exponents so large or so small that the answer
does not depend on them are settled without computing the power. -/
def ofDecimal (negative : Bool) (digits : Nat) (exponent : Int) : Option Binary64 :=
  if digits = 0 then some (zero negative)
  else
    let size : Int := (Nat.toDigits 10 digits).length + exponent
    if size > 310 then none
    else if size < -330 then some (zero negative)
    else if 0 ≤ exponent then ofRatio negative (digits * tenTo exponent.toNat) 1
    else ofRatio negative digits (tenTo (-exponent).toNat)

end Binary64

end Relay
