import TinyC.Script.Value.Arithmetic
import TinyC.Script.Value.Text

/-!
# Formatted text

Filling the places of a format with values.  A place is a per cent sign, flags,
a width, a precision and the letter of a conversion; a star takes the width or
the precision from the values.
-/

namespace TinyC.Script.Format

/-! ## Places -/

/-- A width or a precision. -/
inductive Count
  | fixed (value : Nat)
  /-- Taken from the values. -/
  | taken
  deriving DecidableEq, Repr

/-- A place of a format. -/
structure Place where
  flags : List Char
  width : Count
  precision : Option Count
  conversion : Char

/-- The count at the beginning of a text, and the text after it. -/
def count : List Char → Count × List Char
  | '*' :: rest => (.taken, rest)
  | text => (.fixed (Numeral.valueOf (text.takeWhile Char.isDigit)), text.dropWhile Char.isDigit)

/-- The characters that change how a value is shown. -/
def isFlag (c : Char) : Bool := ['-', '+', ' ', '#', '0'].contains c

/-- The letters that give the size of a number, which has none here. -/
def isSize (c : Char) : Bool := ['h', 'l', 'L'].contains c

/-- The precision at the beginning of a text, if there is one, and the text after it. -/
def precision : List Char → Option Count × List Char
  | '.' :: rest => ((count rest).1, (count rest).2)
  | text => (none, text)

/-- A text without the letter of a size at its beginning. -/
def withoutSize : List Char → List Char
  | [] => []
  | c :: rest => if isSize c then rest else c :: rest

/-- The place whose per cent sign stands before a text, and the text after it. -/
def place? (text : List Char) : Option (Place × List Char) :=
  let (width, afterWidth) := count (text.dropWhile isFlag)
  let (precision, afterPrecision) := precision afterWidth
  match withoutSize afterPrecision with
  | [] => none
  | conversion :: rest => some (⟨text.takeWhile isFlag, width, precision, conversion⟩, rest)

theorem length_count (text : List Char) : (count text).2.length ≤ text.length := by
  unfold count
  split
  · simp
  · exact (List.dropWhile_sublist _).length_le

theorem length_precision (text : List Char) : (precision text).2.length ≤ text.length := by
  unfold precision
  split
  · rename_i rest
    have := length_count rest
    simp only [List.length_cons]
    omega
  · simp

theorem length_withoutSize (text : List Char) : (withoutSize text).length ≤ text.length := by
  unfold withoutSize
  split
  · simp
  · split <;> simp

theorem length_of_place? {text rest : List Char} {place : Place}
    (hplace : place? text = some (place, rest)) : rest.length < text.length := by
  unfold place? at hplace
  have hflags := (List.dropWhile_sublist isFlag (l := text)).length_le
  have hwidth := length_count (text.dropWhile isFlag)
  have hprecision := length_precision (count (text.dropWhile isFlag)).2
  have hsize := length_withoutSize (precision (count (text.dropWhile isFlag)).2).2
  simp only at hplace
  split at hplace
  · simp at hplace
  · rename_i conversion tail heq
    simp only [Option.some.injEq, Prod.mk.injEq] at hplace
    obtain ⟨_, rfl⟩ := hplace
    rw [heq] at hsize
    simp only [List.length_cons] at hsize
    omega

/-! ## Numbers -/

/-- A sign, a base sign and digits. -/
structure Written where
  sign : List Char
  base : List Char
  digits : List Char

/-- The sign of a number, of which the flags show the positive ones too. -/
def signOf (flags : List Char) (isNegative : Bool) : List Char :=
  if isNegative then ['-']
  else if flags.contains '+' then ['+']
  else if flags.contains ' ' then [' ']
  else []

/-- An integer with the letter of a conversion to digits. -/
def integer (flags : List Char) (precision : Nat) (conversion : Char) (value : Int) :
    Except Stop Written := do
  let sign := signOf flags (value < 0)
  let base (letter : Char) : List Char := if flags.contains '#' then ['0', letter] else []
  let written (base digits : List Char) : Written :=
    ⟨sign, base, Decimal.atLeast precision digits⟩
  match conversion with
  | 'o' => return written (base 'o') (Numeral.digits 8 value.natAbs)
  | 'x' => return written (base 'x') (Numeral.digits 16 value.natAbs)
  | 'X' => return written (base 'X') ((Numeral.digits 16 value.natAbs).map Char.toUpper)
  | _ => return written [] (← Value.decimal value.natAbs).toList

/-- A fraction with the letter of a conversion to decimal digits. -/
def fraction (flags : List Char) (precision : Nat) (conversion : Char) (value : Float) : Written :=
  let mustStand := flags.contains '#'
  let digits :=
    if !Number.isFinite value then Number.word value
    else
      match conversion.toLower with
      | 'f' => Number.fixedText mustStand precision value
      | 'e' => Number.scientificText mustStand (precision + 1) value
      | _ => Decimal.general mustStand precision (Number.ratio value)
  let sign := signOf flags (Number.isNegative value && !value.isNaN)
  ⟨sign, [], if conversion.isUpper then digits.map Char.toUpper else digits⟩

/-! ## Filling -/

/-- A text in a field of a width. -/
def fill (flags : List Char) (width : Nat) (zeros : Bool) (written : Written) : List Char :=
  let text := written.sign ++ written.base ++ written.digits
  let missing := width - text.length
  if flags.contains '-' then text ++ List.replicate missing ' '
  else if zeros then
    written.sign ++ written.base ++ List.replicate missing '0' ++ written.digits
  else List.replicate missing ' ' ++ text

/-- The next value, and the values after it. -/
def take : List Value → Except Stop (Value × List Value)
  | [] => .error .typeError
  | value :: rest => .ok (value, rest)

/-- A count and the values after it.  A negative count is told by the flag. -/
def resolve (count : Count) (values : List Value) : Except Stop (Nat × Bool × List Value) :=
  match count, values with
  | .fixed value, values => .ok (value, false, values)
  | .taken, value :: rest =>
      match value.index? with
      | some value => .ok (value.natAbs, decide (value < 0), rest)
      | none => .error .typeError
  | .taken, [] => .error .typeError

/-- The characters of a text. -/
def characters (content : Rope) : Except Stop (List Char) :=
  match content.characters? with
  | some shown => .ok shown
  | none => .error .encodeError

/-- The text that stands for a value with the letter of a conversion to text. -/
def textOf (conversion : Char) (value : Value) : Except Stop Rope :=
  match conversion with
  | 's' => value.display
  | 'r' => value.quoted.map Rope.ofString
  | _ => value.quoted.map fun text => .ofString (Value.asciiOnly text)

/-- The code point that a value stands for. -/
def pointOf (value : Value) : Except Stop Rope :=
  match value with
  | .text content => if content.length = 1 then .ok content else .error .typeError
  | _ =>
      match value.index? with
      | none => .error .typeError
      | some point =>
          if point < 0 ∨ 0x110000 ≤ point then .error .overflowError
          else .ok (.plain [point.toNat])

/-- The whole number that a value stands for with the letter of a conversion to digits.  Only for
decimal digits may it be a fraction. -/
def wholeOf (conversion : Char) (value : Value) : Except Stop Int :=
  match value.number? with
  | some (.whole value) => .ok value
  | some (.binary value) =>
      if ['d', 'i', 'u'].contains conversion then calculated (Number.truncate value)
      else .error .typeError
  | none => .error .typeError

/-- The largest width and precision of a field. -/
def fieldLimit : Nat := 20000000

/-- One value in its place. -/
def convert (flags : List Char) (width : Nat) (precision : Option Nat) (conversion : Char)
    (value : Value) : Except Stop (List Char) := do
  if fieldLimit < max width (precision.getD 0) then throw .memoryError
  let zeros := flags.contains '0'
  if ['s', 'r', 'a'].contains conversion then
    let points := (← textOf conversion value).points
    let shown := (precision.map fun length => points.take length).getD points
    return fill flags width false ⟨[], [], ← characters (.plain shown)⟩
  else if conversion = 'c' then
    return fill flags width false ⟨[], [], ← characters (← pointOf value)⟩
  else if ['d', 'i', 'u', 'o', 'x', 'X'].contains conversion then
    let value ← wholeOf conversion value
    return fill flags width zeros (← integer flags (precision.getD 1) conversion value)
  else if ['e', 'E', 'f', 'F', 'g', 'G'].contains conversion then
    match value.number? with
    | some value =>
        let value ← calculated value.toFloat
        return fill flags width zeros (fraction flags (precision.getD 6) conversion value)
    | none => throw .typeError
  else throw .valueError

/-- A format with its places filled by values, of which none may be left. -/
def apply (format : List Char) (values : List Value) : Except Stop (List Char) :=
  match format with
  | [] => if values.isEmpty then .ok [] else .error .typeError
  | '%' :: '%' :: rest => do
      return '%' :: (← apply rest values)
  | '%' :: rest =>
      match _hplace : place? rest with
      | none => .error .valueError
      | some (place, after) => do
          let (width, leftward, values) ← resolve place.width values
          let (precision, values) ←
            match place.precision with
            | none => pure (none, values)
            | some precision => do
                let (length, negative, values) ← resolve precision values
                pure (some (if negative then 0 else length), values)
          let (value, values) ← take values
          let flags := if leftward then '-' :: place.flags else place.flags
          let shown ← convert flags width precision place.conversion value
          return shown ++ (← apply after values)
  | c :: rest => do
      return c :: (← apply rest values)
termination_by format.length
decreasing_by
  · simp only [List.length_cons]
    omega
  · have := length_of_place? _hplace
    simp only [List.length_cons]
    omega
  · simp

end TinyC.Script.Format
