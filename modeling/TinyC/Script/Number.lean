import TinyC.Number.Decimal

/-!
# Numbers in scripts

Numbers are whole and of any size, or binary fractions of 64 bits.  A whole
number that meets a fraction becomes one, except where they are compared: then
both count with their exact value.
-/

namespace TinyC.Script

/-- Why an operation on numbers has no result. -/
inductive NumberError
  | divisionByZero
  | overflow
  /-- There is no such number: the text of none, or the root of a negative one. -/
  | invalid
  deriving DecidableEq, Repr

/-- A number. -/
inductive Number
  | whole (value : Int)
  | binary (value : Float)

namespace Number

/-! ## Fractions -/

/-- The number of magnitudes. -/
def magnitudes : Nat := Nat.pow 2 63

/-- Whether a fraction has a minus sign. -/
def isNegative (value : Float) : Bool := magnitudes ≤ value.toBits.toNat

/-- The magnitude of a fraction. -/
def magnitude (value : Float) : Nat := value.toBits.toNat % magnitudes

/-- The fraction with a sign and a magnitude. -/
def ofMagnitude (isNegative : Bool) (magnitude : Nat) : Float :=
  .ofBits (UInt64.ofNat (if isNegative then magnitudes + magnitude else magnitude))

/-- Whether a fraction is a number, and not infinite. -/
def isFinite (value : Float) : Bool := magnitude value < Ratio.infinity

/-- The ratio of a fraction that is finite, without its sign. -/
def ratio (value : Float) : Ratio := .ofMagnitude (magnitude value)

/-- A natural number with a sign. -/
def signed (isNegative : Bool) (value : Nat) : Int :=
  if isNegative then -(value : Int) else value

/-- The fraction nearest to a whole number. -/
def toFloat? (value : Int) : Option Float :=
  let magnitude := (Ratio.ofNat value.natAbs).toMagnitude
  if magnitude = Ratio.infinity then none else some (ofMagnitude (value < 0) magnitude)

/-- A number as a fraction. -/
def toFloat : Number → Except NumberError Float
  | .binary value => .ok value
  | .whole value =>
      match toFloat? value with
      | some value => .ok value
      | none => .error .overflow

/-- A fraction without what stands after its point. -/
def truncate (value : Float) : Except NumberError Int :=
  if isFinite value then .ok (signed (isNegative value) (ratio value).floor)
  else if value.isNaN then .error .invalid
  else .error .overflow

/-- The whole number nearest to a fraction; halfway between two, the even one. -/
def nearest (value : Float) : Except NumberError Int :=
  if isFinite value then .ok (signed (isNegative value) (ratio value).nearest)
  else truncate value

/-! ## Order -/

/-- How two finite numbers stand to each other, by signs and ratios. -/
def compareExactly (first second : Bool × Ratio) : Ordering :=
  let value (number : Bool × Ratio) (denominator : Nat) : Int :=
    signed number.1 (number.2.numerator * denominator)
  compare (value first second.2.denominator) (value second first.2.denominator)

/-- How a whole number stands to a fraction. -/
def compareWhole? (first : Int) (second : Float) : Option Ordering :=
  if second.isNaN then none
  else if !isFinite second then some (if isNegative second then .gt else .lt)
  else
    some (compareExactly (decide (first < 0), .ofNat first.natAbs)
      (isNegative second, ratio second))

/-- How two numbers stand to each other, if both are numbers indeed. -/
def compare? : Number → Number → Option Ordering
  | .whole first, .whole second => some (compare first second)
  | .whole first, .binary second => compareWhole? first second
  | .binary first, .whole second => (compareWhole? second first).map Ordering.swap
  | .binary first, .binary second =>
      if first < second then some .lt
      else if second < first then some .gt
      else if first == second then some .eq
      else none

/-- Whether a number is below zero. -/
def isBelowZero (number : Number) : Bool := number.compare? (.whole 0) == some .lt

/-! ## Arithmetic -/

/-- The result of an operation that is known for whole numbers and for fractions. -/
def combine (whole : Int → Int → Int) (binary : Float → Float → Float) :
    Number → Number → Except NumberError Number
  | .whole first, .whole second => .ok (.whole (whole first second))
  | first, second => do return .binary (binary (← first.toFloat) (← second.toFloat))

/-- The sum of two numbers. -/
def add : Number → Number → Except NumberError Number := combine (· + ·) (· + ·)

/-- The difference of two numbers. -/
def sub : Number → Number → Except NumberError Number := combine (· - ·) (· - ·)

/-- The product of two numbers. -/
def mul : Number → Number → Except NumberError Number := combine (· * ·) (· * ·)

/-- A number with the other sign. -/
def neg : Number → Number
  | .whole value => .whole (-value)
  | .binary value => .binary (-value)

/-- A number without its sign. -/
def abs : Number → Number
  | .whole value => .whole value.natAbs
  | .binary value => .binary value.abs

/-- What is left of a fraction when another is taken away from it, with the sign of the first. -/
def leftOver (first second : Float) : Float :=
  if first.isNaN || second.isNaN || first.isInf then first - first
  else if second.isInf then first
  else
    ofMagnitude (isNegative first) ((ratio first).remainder (ratio second)).toMagnitude

/-- The quotient of two fractions, rounded down, and the remainder, with the sign of the second. -/
def divideFractions (first second : Float) : Float × Float :=
  let left := leftOver first second
  let quotient := (first - left) / second
  let (quotient, remainder) :=
    if left == 0 then (quotient, ofMagnitude (isNegative second) 0)
    else if isNegative second ≠ isNegative left then (quotient - 1, left + second)
    else (quotient, left)
  let floor :=
    if quotient == 0 then ofMagnitude (isNegative first ≠ isNegative second) 0
    else if 0.5 < quotient - quotient.floor then quotient.floor + 1
    else quotient.floor
  (floor, remainder)

/-- The quotient of two numbers, rounded down, and the remainder, with the sign of the second. -/
def divide (first second : Number) : Except NumberError (Number × Number) :=
  match first, second with
  | .whole first, .whole second =>
      if second = 0 then .error .divisionByZero
      else .ok (.whole (Int.fdiv first second), .whole (Int.fmod first second))
  | first, second => do
      let first ← first.toFloat
      let second ← second.toFloat
      if second == 0 then .error .divisionByZero
      else
        let (quotient, remainder) := divideFractions first second
        .ok (.binary quotient, .binary remainder)

/-- The quotient of two numbers, rounded towards zero: that of their absolute values, with a
minus sign if exactly one of them is negative. -/
def quotient (first second : Number) : Except NumberError Number := do
  let (magnitude, _) ← first.abs.divide second.abs
  return if first.isBelowZero = second.isBelowZero then magnitude else magnitude.neg

/-! ## Powers -/

/-- A fraction to the power of a fraction. -/
def powerOfFractions (base exponent : Float) : Except NumberError Float :=
  if base == 0 && exponent < 0 then .error .divisionByZero
  else
    let power := base.pow exponent
    if isFinite base && isFinite exponent then
      -- A root of a negative number is none of these numbers.
      if power.isNaN then .error .invalid
      else if power.isInf then .error .overflow
      else .ok power
    else .ok power

/-- The largest number of bits that a power may have. -/
def bitLimit : Nat := 1000000000

/-- A number to the power of a number. -/
def power : Number → Number → Except NumberError Number
  | .whole base, .whole (.ofNat exponent) =>
      if 1 < base.natAbs ∧ bitLimit < Nat.log2 base.natAbs * exponent then .error .overflow
      else
        let isNegative := decide (base < 0) && exponent % 2 = 1
        .ok (.whole (signed isNegative (Nat.pow base.natAbs exponent)))
  | base, exponent => do
      return .binary (← powerOfFractions (← base.toFloat) (← exponent.toFloat))

/-- A natural number to a power, as the remainder by a modulus.  The exponent is halved as often
as the number of steps allows. -/
def powerModulo (modulus : Nat) : (steps base exponent : Nat) → Nat
  | 0, _, _ => 1 % modulus
  | steps + 1, base, exponent =>
      if exponent = 0 then 1 % modulus
      else
        let rest := powerModulo modulus steps (base * base % modulus) (exponent / 2)
        if exponent % 2 = 0 then rest else base * rest % modulus

/-- Numbers whose products with two numbers differ by the greatest common divisor of these, in as
many steps as allowed: the first of them, and the divisor. -/
def cofactor : (steps : Nat) → (first second firstFactor secondFactor : Int) → Int × Int
  | 0, first, _, firstFactor, _ => (firstFactor, first)
  | steps + 1, first, second, firstFactor, secondFactor =>
      if second = 0 then (firstFactor, first)
      else
        cofactor steps second (first % second) secondFactor
          (firstFactor - first / second * secondFactor)

/-- The number whose product with a number is one modulo the modulus. -/
def inverse? (value modulus : Nat) : Option Nat :=
  let steps := 2 * Nat.log2 (value + modulus) + 4
  let (factor, divisor) := cofactor steps (value % modulus) modulus 1 0
  if divisor = 1 then some (factor % modulus).toNat else none

/-- A whole number to a power, as the remainder by a modulus, with the sign of the modulus. -/
def remainderOfPower (base exponent modulus : Int) : Except NumberError Int :=
  if modulus = 0 then .error .invalid
  else
    let size := modulus.natAbs
    let reduced := (base % modulus).toNat
    let start : Option Nat := if exponent < 0 then inverse? reduced size else some reduced
    match start with
    | none => .error .invalid
    | some start =>
        let steps := Nat.log2 exponent.natAbs + 1
        let remainder : Int := powerModulo size steps start exponent.natAbs
        .ok (if modulus < 0 ∧ remainder ≠ 0 then remainder + modulus else remainder)

/-! ## Hashes -/

/-- The modulus of hashes of numbers, a prime. -/
def hashModulus : Nat := Nat.pow 2 61 - 1

/-- The hash of a ratio whose denominator is a power of two.  Ratios that are equal have the same
hash: halving is multiplication by the number whose double is one modulo the modulus. -/
def hashOfRatio (ratio : Ratio) : Nat :=
  let half := Nat.pow 2 60
  let halvings := Nat.log2 ratio.denominator
  ratio.numerator * powerModulo hashModulus (Nat.log2 halvings + 1) half halvings % hashModulus

/-- The hash of infinity. -/
def hashOfInfinity : Nat := 314159

/-- The hash of a number.  It is never minus one. -/
def hash (number : Number) : Int :=
  let hash :=
    match number with
    | .whole value => signed (value < 0) (value.natAbs % hashModulus)
    | .binary value =>
        if value.isNaN then 0
        else
          signed (isNegative value)
            (if isFinite value then hashOfRatio (ratio value) else hashOfInfinity)
  if hash = -1 then -2 else hash

/-! ## Texts -/

/-- The words for fractions that are not finite. -/
def word (value : Float) : List Char := (if value.isNaN then "nan" else "inf").toList

/-- The number of digits, and of places after the point, beyond which all fractions have zeros
only. -/
def exactPlaces : Nat := 1100

/-- A fraction that is finite, without its sign, rounded to a number of places. -/
def fixedText (mustStand : Bool) (places : Nat) (value : Float) : List Char :=
  Decimal.fixed mustStand (min places exactPlaces) (ratio value) ++
    List.replicate (places - exactPlaces) '0'

/-- A fraction that is finite, without its sign, rounded to a number of digits, as a multiple of a
power of ten. -/
def scientificText (mustStand : Bool) (count : Nat) (value : Float) : List Char :=
  let decimal := Decimal.rounded (min count exactPlaces) (ratio value)
  let zeros := List.replicate (count - exactPlaces) '0'
  { decimal with digits := decimal.digits ++ zeros }.scientific mustStand

/-- The shortest text of a fraction. -/
def shortestText (value : Float) : List Char :=
  let sign := if isNegative value && !value.isNaN then ['-'] else []
  sign ++ if isFinite value then Decimal.shortestText false (magnitude value) else word value

end Number

end TinyC.Script
