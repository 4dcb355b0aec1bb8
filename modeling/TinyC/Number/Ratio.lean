/-!
# Ratios

Exact quotients of natural numbers, and the binary fractions nearest to them.
A binary fraction of 64 bits is known by its magnitude, which is all of its bits
but the sign, read as a number: eleven for the exponent and then 52 for the
significand, of which the first bit is left out unless the exponent is least.
In this way the next magnitude always belongs to the next larger fraction.
-/

namespace TinyC

/-- A quotient of natural numbers. -/
structure Ratio where
  numerator : Nat
  denominator : Nat

namespace Ratio

/-- A natural number as a ratio. -/
def ofNat (value : Nat) : Ratio := ⟨value, 1⟩

/-- The largest natural number that is not above a ratio. -/
def floor (ratio : Ratio) : Nat := ratio.numerator / ratio.denominator

/-- The natural number nearest to a ratio; halfway between two, the even one. -/
def nearest (ratio : Ratio) : Nat :=
  let twice := 2 * (ratio.numerator % ratio.denominator)
  if twice < ratio.denominator ∨ (twice = ratio.denominator ∧ ratio.floor % 2 = 0) then ratio.floor
  else ratio.floor + 1

/-- A ratio times a power of a base. -/
def scale (ratio : Ratio) (base : Nat) (power : Int) : Ratio :=
  ⟨ratio.numerator * Nat.pow base power.toNat, ratio.denominator * Nat.pow base (-power).toNat⟩

/-- What is left of a ratio when another is taken away as often as possible. -/
def remainder (ratio other : Ratio) : Ratio :=
  ⟨ratio.numerator * other.denominator % (other.numerator * ratio.denominator),
    ratio.denominator * other.denominator⟩

/-- Whether a ratio is less than another. -/
def isLess (ratio other : Ratio) : Bool :=
  ratio.numerator * other.denominator < other.numerator * ratio.denominator

/-! ## Binary fractions -/

/-- The number of bits that are kept of a significand. -/
def significandBits : Nat := 52

/-- The first significand that has its full length. -/
def firstFull : Nat := Nat.pow 2 significandBits

/-- The power of two that the last bit of the smallest fractions stands for. -/
def leastExponent : Int := -1074

/-- The magnitude of infinity. -/
def infinity : Nat := 2047 * firstFull

/-- The ratio of a magnitude that is not infinite. -/
def ofMagnitude (magnitude : Nat) : Ratio :=
  let field := magnitude / firstFull
  if field = 0 then (ofNat magnitude).scale 2 leastExponent
  else (ofNat (magnitude % firstFull + firstFull)).scale 2 (leastExponent + field - 1)

/-- The magnitude of the fraction nearest to a ratio; halfway between two, the even one. -/
def toMagnitude (ratio : Ratio) : Nat :=
  if ratio.numerator = 0 then 0
  else
    let guess : Int := Nat.log2 ratio.numerator - Nat.log2 ratio.denominator - significandBits
    let full := if (ratio.scale 2 (-guess)).floor < firstFull then guess - 1 else guess
    let exponent := max full leastExponent
    let significand := (ratio.scale 2 (-exponent)).nearest
    min infinity ((exponent - leastExponent).toNat * firstFull + significand)

end Ratio

end TinyC
