import TinyC.Number.Ratio
import TinyC.Text.Numeral

/-!
# Decimal fractions

Ratios written with decimal digits: rounded to a number of digits, rounded to a
number of places, or with as few digits as tell a binary fraction from all the
others.
-/

namespace TinyC

/-- Digits, the first of which stands for a multiple of a power of ten and the others for
multiples of the powers below. -/
structure Decimal where
  digits : List Char
  exponent : Int

namespace Decimal

/-- The power of ten that a ratio above zero reaches. -/
def reach (ratio : Ratio) : Int :=
  let guess : Int :=
    (Numeral.magnitude ratio.numerator : Int) - Numeral.magnitude ratio.denominator
  if (ratio.scale 10 (-guess)).floor = 0 then guess - 1 else guess

/-- A number of units of a power of ten. -/
def ofUnits (units : Nat) (power : Int) : Decimal :=
  let digits := Numeral.digits 10 units
  ⟨digits, power + (digits.length - 1 : Nat)⟩

/-- A ratio rounded to a number of digits. -/
def rounded (count : Nat) (ratio : Ratio) : Decimal :=
  if ratio.numerator = 0 then ⟨List.replicate count '0', 0⟩
  else
    let power := reach ratio - (count - 1 : Nat)
    let decimal := ofUnits (ratio.scale 10 (-power)).nearest power
    -- Rounding up nines makes one digit more.
    { decimal with digits := decimal.digits.take count }

/-- The decimal with a number of digits that is nearest to a fraction, or else its neighbour, if
the fraction is the one nearest to it. -/
def withDigits? (magnitude count : Nat) : Option Decimal :=
  let ratio := Ratio.ofMagnitude magnitude
  let power := reach ratio - (count - 1 : Nat)
  let scaled := ratio.scale 10 (-power)
  let other := if scaled.nearest = scaled.floor then scaled.floor + 1 else scaled.floor
  let readsBack (units : Nat) : Bool :=
    ((Ratio.ofNat units).scale 10 power).toMagnitude = magnitude
  ([scaled.nearest, other].find? readsBack).map fun units => ofUnits units power

/-- Digits without the zeros at their end. -/
def withoutZeros (digits : List Char) : List Char :=
  (digits.reverse.dropWhile fun c => c = '0').reverse

/-- The number of digits that always suffices. -/
def sufficient : Nat := 17

/-- The decimal of fewest digits to which a fraction is the nearest one. -/
def shortest (magnitude : Nat) : Decimal :=
  if magnitude = 0 then ⟨['0'], 0⟩
  else
    let found := (List.range sufficient).findSome? fun less => withDigits? magnitude (less + 1)
    let decimal := found.getD (rounded sufficient (Ratio.ofMagnitude magnitude))
    { decimal with digits := withoutZeros decimal.digits }

/-! ## Texts -/

/-- Digits before and after a point, which is left out before nothing unless it must stand. -/
def pointed (mustStand : Bool) (whole fraction : List Char) : List Char :=
  whole ++ (if mustStand || !fraction.isEmpty then ['.'] else []) ++ fraction

/-- The digits before the point. -/
def whole (decimal : Decimal) : List Char :=
  if decimal.exponent < 0 then ['0']
  else
    let length := (decimal.exponent + 1).toNat
    decimal.digits.take length ++ List.replicate (length - decimal.digits.length) '0'

/-- The digits after the point. -/
def fraction (decimal : Decimal) : List Char :=
  if decimal.exponent < 0 then
    List.replicate (-decimal.exponent - 1).toNat '0' ++ decimal.digits
  else decimal.digits.drop (decimal.exponent + 1).toNat

/-- Digits with zeros before them up to a number of digits. -/
def atLeast (length : Nat) (digits : List Char) : List Char :=
  List.replicate (length - digits.length) '0' ++ digits

/-- A decimal as a multiple of a power of ten. -/
def scientific (mustStand : Bool) (decimal : Decimal) : List Char :=
  pointed mustStand (decimal.digits.take 1) (decimal.digits.drop 1) ++
    ['e', if decimal.exponent < 0 then '-' else '+'] ++
    atLeast 2 (Numeral.digits 10 decimal.exponent.natAbs)

/-- A ratio rounded to a number of places after the point. -/
def fixed (mustStand : Bool) (places : Nat) (ratio : Ratio) : List Char :=
  let digits := atLeast (places + 1) (Numeral.digits 10 (ratio.scale 10 places).nearest)
  let length := digits.length - places
  pointed mustStand (digits.take length) (digits.drop length)

/-- A decimal with all its places, at least one of them after the point. -/
def withPoint (decimal : Decimal) : List Char :=
  pointed true decimal.whole (if decimal.fraction.isEmpty then ['0'] else decimal.fraction)

/-- A ratio rounded to a number of digits, of which zeros at the end are kept only if asked for. -/
def roundedTo (keepsZeros : Bool) (count : Nat) (ratio : Ratio) : Decimal :=
  let decimal := rounded (max count 1) ratio
  if keepsZeros then decimal
  else { decimal with digits := decimal.digits.take 1 ++ withoutZeros (decimal.digits.drop 1) }

/-- Whether a decimal is written with all its places, if the first may stand for a power of ten
below the bound. -/
def isShort (bound : Int) (decimal : Decimal) : Bool :=
  -4 ≤ decimal.exponent && decimal.exponent < bound

/-- A ratio with a number of digits, with all its places if they are not too many. -/
def general (mustStand : Bool) (count : Nat) (ratio : Ratio) : List Char :=
  let decimal := roundedTo mustStand count ratio
  if decimal.isShort (max count 1 : Nat) then pointed mustStand decimal.whole decimal.fraction
  else decimal.scientific mustStand

/-- A ratio with a number of digits, with all its places if one of them comes after the point. -/
def generalWithPoint (mustStand : Bool) (count : Nat) (ratio : Ratio) : List Char :=
  let decimal := roundedTo mustStand count ratio
  if decimal.isShort (max count 1 - 1 : Nat) then decimal.withPoint
  else decimal.scientific mustStand

/-- The shortest text that stands for a fraction, with a point or an exponent. -/
def shortestText (mustStand : Bool) (magnitude : Nat) : List Char :=
  let decimal := shortest magnitude
  if decimal.isShort 16 then decimal.withPoint else decimal.scientific mustStand

/-! ## Reading -/

/-- The powers of ten beyond which all ratios are infinite or zero as fractions. -/
def farthest : Int := 400

/-- The magnitude of the fraction nearest to a number of units of a power of ten. -/
def toMagnitude (units : Nat) (power : Int) : Nat :=
  let reach := Numeral.magnitude units + power
  if units = 0 ∨ reach < -farthest then 0
  else if farthest < reach then Ratio.infinity
  else ((Ratio.ofNat units).scale 10 power).toMagnitude

end Decimal

end TinyC
