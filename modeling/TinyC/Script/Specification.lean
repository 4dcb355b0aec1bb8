import TinyC.Script.Format

/-!
# Format specifications

A text can tell how a value is to be shown: where it stands in a field, how wide
the field is and what fills it, how positive numbers are marked, whether digits
are put into groups, how many places there are, and by which conversion.

  `[[fill]align][sign][z][#][0][width][grouping][.precision][conversion]`
-/

namespace TinyC.Script

/-- Where a value stands in its field. -/
inductive Alignment
  | left
  | right
  | center
  /-- A sign at the beginning, digits at the end. -/
  | apart
  deriving DecidableEq, Repr

/-- The alignment that a character stands for. -/
def Alignment.ofChar? (c : Char) : Option Alignment :=
  [('<', Alignment.left), ('>', .right), ('^', .center), ('=', .apart)].lookup c

/-- How a value is to be shown. -/
structure Specification where
  fill : Char := ' '
  align : Option Alignment := none
  sign : Option Char := none
  hidesNegativeZero : Bool := false
  isAlternate : Bool := false
  width : Nat := 0
  separator : Option Char := none
  precision : Option Nat := none
  conversion : Option Char := none

namespace Specification

/-! ## Reading -/

/-- The fill and the alignment at the beginning of a text, and the text after them. -/
def alignment (text : List Char) : Option Char × Option Alignment × List Char :=
  match text with
  | first :: second :: rest =>
      match Alignment.ofChar? second, Alignment.ofChar? first with
      | some align, _ => (some first, some align, rest)
      | none, some align => (none, some align, second :: rest)
      | none, none => (none, none, text)
  | [only] =>
      match Alignment.ofChar? only with
      | some align => (none, some align, [])
      | none => (none, none, text)
  | [] => (none, none, [])

/-- One of some characters at the beginning of a text, and the text after it. -/
def oneOf (choices : List Char) : List Char → Option Char × List Char
  | [] => (none, [])
  | c :: rest => if choices.contains c then (some c, rest) else (none, c :: rest)

/-- The precision at the beginning of a text, and the text after it. -/
def precisionOf (text : List Char) : Option (Option Nat × List Char) :=
  match text with
  | '.' :: rest =>
      let digits := rest.takeWhile Char.isDigit
      if digits.isEmpty then none
      else some (some (Numeral.valueOf digits), rest.dropWhile Char.isDigit)
  | _ => some (none, text)

/-- The conversions with which each separator can be used. -/
def allowsSeparator (separator conversion : Char) : Bool :=
  ['d', 'e', 'f', 'g', 'E', 'G', '%', 'F'].contains conversion ||
    (separator = '_' && ['b', 'o', 'x', 'X'].contains conversion)

/-- The specification that a text stands for, if numbers are to be shown, or else texts. -/
def ofText? (forNumbers : Bool) (text : List Char) : Option Specification := do
  let (fill, align, rest) := alignment text
  let (sign, rest) := oneOf ['+', '-', ' '] rest
  let (negativeZero, rest) := oneOf ['z'] rest
  let (alternate, rest) := oneOf ['#'] rest
  let (zero, rest) := if fill.isSome then (none, rest) else oneOf ['0'] rest
  let width := Numeral.valueOf (rest.takeWhile Char.isDigit)
  let (separator, rest) := oneOf [',', '_'] (rest.dropWhile Char.isDigit)
  let (precision, rest) ← precisionOf rest
  let conversion ←
    match rest with
    | [] => some none
    | [c] => some (some c)
    | _ => none
  let isAllowed (separator : Char) : Bool :=
    match conversion with
    | none => forNumbers
    | some conversion => allowsSeparator separator conversion
  if !(separator.map isAllowed).getD true then none
  let zerosApart := if zero.isSome && forNumbers then some Alignment.apart else none
  return { fill := fill.getD (zero.getD ' '), align := align.or zerosApart, sign,
           hidesNegativeZero := negativeZero.isSome, isAlternate := alternate.isSome, width,
           separator, precision, conversion }

/-! ## Fields -/

/-- Digits from the last one on in groups, with zeros up to a width. -/
def groups (size : Nat) : (steps : Nat) → (reversed : List Char) → (width : Int) →
    List (List Char)
  | 0, _, _ => []
  | steps + 1, reversed, width =>
      let length := min size (max (max reversed.length width.toNat) 1)
      let group := reversed.take length
      let filled := group ++ List.replicate (length - group.length) '0'
      let rest := reversed.drop length
      if rest.isEmpty && width ≤ length then [filled]
      else filled :: groups size steps rest (width - length - 1)

/-- Digits in groups, with zeros up to a width. -/
def grouped (separator : Char) (size : Nat) (digits : List Char) (width : Int) : List Char :=
  let steps := digits.length + width.toNat + 1
  ([separator].intercalate (groups size steps digits.reverse width)).reverse

/-- A number in parts: what comes before its digits, the digits, and what comes after them. -/
structure Parts where
  before : List Char
  digits : List Char
  after : List Char

/-- A text in a field. -/
def place (specification : Specification) (default : Alignment) (before text : List Char) :
    List Char :=
  let missing := specification.width - (before.length + text.length)
  let fill (count : Nat) : List Char := List.replicate count specification.fill
  match specification.align.getD default with
  | .left => before ++ text ++ fill missing
  | .right => fill missing ++ before ++ text
  | .center => fill (missing / 2) ++ before ++ text ++ fill (missing - missing / 2)
  | .apart => before ++ fill missing ++ text

/-- A number in its field. -/
def placeNumber (specification : Specification) (groupSize : Nat) (parts : Parts) : List Char :=
  let hasZeros := specification.fill = '0' && specification.align = some .apart
  let width : Int :=
    if hasZeros then specification.width - (parts.before.length + parts.after.length : Nat) else 0
  let digits :=
    match specification.separator with
    | some separator =>
        if parts.digits.isEmpty then [] else grouped separator groupSize parts.digits width
    | none => parts.digits
  specification.place .right parts.before (digits ++ parts.after)

/-- The sign of a number. -/
def signOf (specification : Specification) (isNegative : Bool) : List Char :=
  if isNegative then ['-'] else (specification.sign.filter fun sign => sign ≠ '-').toList

/-! ## Conversions -/

/-- The base of a conversion to digits, and what comes before them if the base is to be shown. -/
def baseOf? : Char → Option (Nat × List Char)
  | 'd' | 'n' => some (10, [])
  | 'b' => some (2, ['0', 'b'])
  | 'o' => some (8, ['0', 'o'])
  | 'x' => some (16, ['0', 'x'])
  | 'X' => some (16, ['0', 'X'])
  | _ => none

/-- A whole number with digits. -/
def showWhole (specification : Specification) (conversion : Char) (value : Int) :
    Except Stop (List Char) := do
  if specification.precision.isSome || specification.hidesNegativeZero then throw .valueError
  if conversion = 'c' then
    if specification.sign.isSome || specification.isAlternate then throw .valueError
    if value < 0 ∨ 0x110000 ≤ value then throw .overflowError
    let shown ← Format.characters (.plain [value.toNat])
    return specification.placeNumber 3 ⟨[], [], shown⟩
  match baseOf? conversion with
  | none => throw .valueError
  | some (base, mark) =>
      let digits ←
        if base = 10 then pure (← Value.decimal value.natAbs).toList
        else pure (Numeral.digits base value.natAbs)
      let digits := if conversion = 'X' then digits.map Char.toUpper else digits
      let mark := if specification.isAlternate then mark else []
      let groupSize := if base = 10 then 3 else 4
      return specification.placeNumber groupSize
        ⟨specification.signOf (value < 0) ++ mark, digits, []⟩

/-- A fraction without its sign by a conversion, or by none. -/
def digitsOf? (specification : Specification) (conversion : Option Char) (value : Float) :
    Option (List Char) :=
  let mustStand := specification.isAlternate
  let precision := specification.precision.getD 6
  let ratio := Number.ratio value
  let digits? :=
    match conversion with
    | none =>
        match specification.precision with
        | none => some (Decimal.shortestText mustStand (Number.magnitude value))
        | some precision => some (Decimal.generalWithPoint mustStand precision ratio)
    | some 'e' => some (Number.scientificText mustStand (precision + 1) value)
    | some 'f' => some (Number.fixedText mustStand precision value)
    | some 'g' | some 'n' => some (Decimal.general mustStand precision ratio)
    | _ => none
  digits?.map fun digits => if Number.isFinite value then digits else Number.word value

/-- Whether digits, with a point and an exponent, stand for zero. -/
def isZero (digits : List Char) : Bool :=
  (digits.takeWhile fun c => c ≠ 'e').all fun c => c = '0' || c = '.'

/-- A fraction with decimal digits. -/
def showFraction (specification : Specification) (value : Float) : Except Stop (List Char) := do
  let isShare := specification.conversion = some '%'
  let value := if isShare then value * 100 else value
  let upper := (specification.conversion.map Char.isUpper).getD false
  let conversion := if isShare then some 'f' else specification.conversion.map Char.toLower
  if specification.conversion = some 'N' then throw .valueError
  match specification.digitsOf? conversion value with
  | none => throw .valueError
  | some text =>
      let isNegative := Number.isNegative value && !value.isNaN &&
        !(specification.hidesNegativeZero && isZero text)
      let text := if upper then text.map Char.toUpper else text
      return specification.placeNumber 3
        ⟨specification.signOf isNegative, text.takeWhile Char.isDigit,
          text.dropWhile Char.isDigit ++ if isShare then ['%'] else []⟩

/-- Whether a conversion makes a fraction of a whole number. -/
def isForFractions (conversion : Char) : Bool :=
  ['e', 'E', 'f', 'F', 'g', 'G', '%'].contains conversion

/-- A number in its field. -/
def showNumber (specification : Specification) (number : Number) : Except Stop (List Char) := do
  match number with
  | .binary value => specification.showFraction value
  | .whole value =>
      let conversion := specification.conversion.getD 'd'
      if isForFractions conversion then
        specification.showFraction (← calculated number.toFloat)
      else specification.showWhole conversion value

/-- A text in its field. -/
def showText (specification : Specification) (content : Rope) : Except Stop (List Char) := do
  if specification.sign.isSome || specification.isAlternate || specification.hidesNegativeZero ||
      specification.align = some .apart || (specification.conversion.getD 's') ≠ 's' then
    throw .valueError
  let points := content.points
  let shown := (specification.precision.map fun length => points.take length).getD points
  return specification.place .left [] (← Format.characters (.plain shown))

end Specification

/-- A value as a specification tells.  The empty one tells nothing. -/
def Value.format (value : Value) (specification : List Char) : Except Stop Rope :=
  if specification.isEmpty then value.display
  else
    let read (forNumbers : Bool) : Except Stop Specification :=
      match Specification.ofText? forNumbers specification with
      | none => .error .valueError
      | some read =>
          if Format.fieldLimit < max read.width (read.precision.getD 0) then .error .memoryError
          else .ok read
    let shown : Except Stop (List Char) :=
      match value, value.number? with
      | .text content, _ => do (← read false).showText content
      | _, some number => do (← read true).showNumber number
      | _, none => .error .typeError
    shown.map fun characters => .plain (characters.map Char.toNat)

end TinyC.Script
