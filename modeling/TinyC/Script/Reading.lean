import TinyC.Script.Number
import TinyC.Unicode.Digit

/-!
# Numbers in texts

Reading a text as a number.  Blanks around it do not count, digits may be those
of any script, and a single underscore may stand between two digits.
-/

namespace TinyC.Script.Reading

/-- A text without blanks around it, with the first digits in place of the others. -/
def plain (text : List Char) : List Char :=
  let isBlank := Unicode.isBlank
  let inner := ((text.dropWhile isBlank).reverse.dropWhile isBlank).reverse
  inner.map fun c => ((Unicode.decimalDigit? c).map Numeral.digit).getD c

/-- Whether a text begins with a minus sign, and the text after its sign. -/
def sign : List Char → Bool × List Char
  | '-' :: rest => (true, rest)
  | '+' :: rest => (false, rest)
  | text => (false, text)

/-- Whether a character is a digit of a base. -/
def isDigitOf (base : Nat) (c : Char) : Bool :=
  match Numeral.digitValue? c with
  | some value => value < base
  | none => false

/-- The digits of a row in which underscores may stand between digits. -/
def digits? (base : Nat) : List Char → Option (List Char)
  | [] => none
  | [c] => if isDigitOf base c then some [c] else none
  | c :: '_' :: rest => if isDigitOf base c then (digits? base rest).map (c :: ·) else none
  | c :: rest => if isDigitOf base c then (digits? base rest).map (c :: ·) else none

/-- The base that the letter after a zero stands for. -/
def baseOf? (letter : Char) : Option Nat := [('b', 2), ('o', 8), ('x', 16)].lookup letter.toLower

/-- The base of a number and its digits.  Base zero stands for that which the number tells. -/
def based (base : Nat) (text : List Char) : Nat × List Char :=
  match text with
  | '0' :: letter :: rest =>
      match baseOf? letter with
      | some told =>
          if base = 0 ∨ base = told then
            -- One underscore may stand before the first digit.
            (told, match rest with | '_' :: rest => rest | _ => rest)
          else (base, text)
      | none => (base, text)
  | _ => (base, text)

/-- The largest number of digits that are read, of a base that is not a power of two. -/
def digitLimit : Nat := 4300

/-- The whole number that a text stands for in a base. -/
def whole? (base : Nat) (text : List Char) : Option Int :=
  let (isNegative, unsigned) := sign (plain text)
  let (told, row) := based base unsigned
  -- Without a base, only zero begins with a zero.
  let isPlain := told = 0
  (digits? (if isPlain then 10 else told) row).bind fun digits =>
    let inBase := if isPlain then 10 else told
    let startsWithZero := digits.head? = some '0' && digits.any fun c => c ≠ '0'
    let isPowerOfTwo := [2, 4, 8, 16, 32].contains inBase
    if (isPlain && startsWithZero) || (!isPowerOfTwo && digitLimit < digits.length) then none
    else some (Number.signed isNegative (Numeral.valueIn inBase digits))

/-- Digits that may be missing. -/
def digitsOrNone? (row : List Char) : Option (List Char) :=
  if row.isEmpty then some [] else digits? 10 row

/-- The exponent of a number, which may be missing. -/
def exponent? : List Char → Option Int
  | [] => some 0
  | _ :: rest =>
      let (isNegative, row) := sign rest
      (digits? 10 row).map fun digits => Number.signed isNegative (Numeral.valueIn 10 digits)

/-- The magnitude of the fraction that a text without a sign stands for. -/
def magnitude? (text : List Char) : Option Nat :=
  let isExponent (c : Char) : Bool := c = 'e' || c = 'E'
  let row := text.takeWhile fun c => !isExponent c
  let whole := row.takeWhile fun c => c ≠ '.'
  let fraction := (row.dropWhile fun c => c ≠ '.').drop 1
  match digitsOrNone? whole, digitsOrNone? fraction,
      exponent? (text.dropWhile fun c => !isExponent c) with
  | some whole, some fraction, some exponent =>
      if whole.isEmpty && fraction.isEmpty then none
      else some (Decimal.toMagnitude (Numeral.valueIn 10 (whole ++ fraction))
        (exponent - fraction.length))
  | _, _, _ => none

/-- The fraction that a text stands for. -/
def fraction? (text : List Char) : Option Float :=
  let (isNegative, unsigned) := sign (plain text)
  let word := String.ofList (unsigned.map Char.toLower)
  if word = "inf" ∨ word = "infinity" then
    some (Number.ofMagnitude isNegative Ratio.infinity)
  else if word = "nan" then some (0 / 0)
  else (magnitude? unsigned).map (Number.ofMagnitude isNegative)

end TinyC.Script.Reading
