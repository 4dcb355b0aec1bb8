import TinyC.Script.Making
import TinyC.Script.Specification

/-!
# Functions that every script has

Functions that can be called without a definition.  Not all of them do something
here: those that would lead outside of the script can be named and shown, but a
call of them ends the script.
-/

namespace TinyC.Script

/-- What a function can see of the place where it is called. -/
structure Scope where
  call : Call
  locals : Unit → List (String × Value)
  globals : Unit → List (String × Value)

/-- A function without a definition. -/
abbrev Builtin : Type := Scope → List Value → Machine Value

namespace Builtin

/-- A function of one argument that needs nothing else. -/
def ofOne (function : Value → Except Stop Value) : Builtin := fun _ arguments =>
  match arguments with
  | [value] => Machine.ofExcept (function value)
  | _ => throw .typeError

/-- A whole number from a value that stands for one. -/
def index (value : Value) : Except Stop Int :=
  match value.index? with
  | some index => .ok index
  | none => .error .typeError

/-- A number from a value that stands for one. -/
def number (value : Value) : Except Stop Number :=
  match value.number? with
  | some number => .ok number
  | none => .error .typeError

/-! ## Numbers -/

/-- A number without its sign. -/
def abs (value : Value) : Except Stop Value := do return .ofNumber (← number value).abs

/-- A whole number with digits of a base after a zero and a letter. -/
def inBase (letter : Char) (base : Nat) (value : Value) : Except Stop Value := do
  let value ← index value
  let sign := if value < 0 then ['-'] else []
  return .ofString (String.ofList (sign ++ ['0', letter] ++ Numeral.digits base value.natAbs))

/-- The quotient of two numbers, rounded down, and what is left over. -/
def divmod : Builtin := fun _ arguments =>
  Machine.ofExcept do
    match arguments with
    | [left, right] =>
        let (quotient, remainder) ← calculated ((← number left).divide (← number right))
        return .tuple [.ofNumber quotient, .ofNumber remainder]
    | _ => throw .typeError

/-- A power, or what is left of one when it is divided by a modulus. -/
def pow : Builtin := fun _ arguments =>
  Machine.ofExcept do
    match arguments with
    | [base, exponent] | [base, exponent, .nothing] =>
        return .ofNumber (← calculated ((← number base).power (← number exponent)))
    | [base, exponent, modulus] =>
        return .integer (← calculated
          (Number.remainderOfPower (← index base) (← index exponent) (← index modulus)))
    | _ => throw .typeError

/-- The number of places beyond which rounding a fraction changes nothing. -/
def mostPlaces : Int := 323

/-- The number of places below which rounding a fraction leaves nothing. -/
def fewestPlaces : Int := -308

/-- A fraction rounded to a number of places. -/
def roundFraction (value : Float) (places : Int) : Except Stop Value :=
  if !Number.isFinite value || mostPlaces < places then .ok (.fraction value)
  else if places < fewestPlaces then .ok (.fraction (0 * value))
  else
    let units := ((Number.ratio value).scale 10 places).nearest
    let magnitude := Decimal.toMagnitude units (-places)
    if magnitude = Ratio.infinity then .error .overflowError
    else .ok (.fraction (Number.ofMagnitude (Number.isNegative value) magnitude))

/-- A whole number rounded to tens, hundreds and so on. -/
def roundWhole (value places : Int) : Value :=
  if 0 ≤ places then .integer value
  else
    let unit := Nat.pow 10 places.natAbs
    .integer (Number.signed (value < 0) ((Ratio.mk value.natAbs unit).nearest * unit))

/-- A number rounded to a number of places, or to a whole number. -/
def round : Builtin := fun _ arguments =>
  Machine.ofExcept do
    match arguments with
    | [value] | [value, .nothing] =>
        match ← number value with
        | .whole value => return .integer value
        | .binary value => return .integer (← calculated (Number.nearest value))
    | [value, places] =>
        let places ← index places
        match ← number value with
        | .whole value => return roundWhole value places
        | .binary value => roundFraction value places
    | _ => throw .typeError

/-! ## Sums -/

/-- A sum of fractions, and what was lost by rounding it. -/
structure Compensated where
  sum : Float
  lost : Float := 0

/-- A sum with one more fraction. -/
def Compensated.add (total : Compensated) (value : Float) : Compensated :=
  let sum := total.sum + value
  let lost :=
    if value.abs ≤ total.sum.abs then (total.sum - sum) + value else (value - sum) + total.sum
  ⟨sum, total.lost + lost⟩

/-- The sum with what was lost. -/
def Compensated.value (total : Compensated) : Float :=
  if total.lost != 0 && Number.isFinite total.lost then total.sum + total.lost else total.sum

/-- The sum of a fraction and values, as long as they are numbers. -/
def sumFractions (total : Compensated) : List Value → Except Stop Value
  | [] => .ok (.fraction total.value)
  | .fraction value :: rest => sumFractions (total.add value) rest
  | value :: rest =>
      match value.index? with
      | some whole => do
          let value ← calculated (Number.toFloat (.whole whole))
          sumFractions { total with sum := total.sum + value } rest
      | none => .error .typeError

/-- The sum of a value and others. -/
def sumFrom (total : Value) : List Value → Except Stop Value
  | [] => .ok total
  | value :: rest =>
      match total with
      | .fraction sum => sumFractions ⟨sum, 0⟩ (value :: rest)
      | total => do sumFrom (← Operator.add.apply total value) rest

/-- The sum of the items of a value.  Texts are not summed. -/
def sum : Builtin := fun scope arguments => do
  match arguments with
  | [value] => Machine.ofExcept (sumFrom (.integer 0) (← Iteration.collect scope.call value))
  | [_, .text _] | [_, .bytes _ _] => throw .typeError
  | [value, start] => Machine.ofExcept (sumFrom start (← Iteration.collect scope.call value))
  | _ => throw .typeError

/-! ## Order -/

/-- The first of some values to which no other is preferred. -/
def extreme (isPreferred : Value → Value → Except Stop Bool) : List Value → Except Stop Value
  | [] => .error .valueError
  | first :: rest =>
      rest.foldlM (fun best value => do
        return if ← isPreferred value best then value else best) first

/-- The arguments, or the items of a single one. -/
def choices (scope : Scope) : List Value → Machine (List Value)
  | [] => throw .typeError
  | [value] => Iteration.collect scope.call value
  | values => return values

/-- The first of some values to which none of them is greater. -/
def max : Builtin := fun scope arguments => do
  Machine.ofExcept (extreme (fun value best => best.isLess value) (← choices scope arguments))

/-- The first of some values to which none of them is less. -/
def min : Builtin := fun scope arguments => do
  Machine.ofExcept (extreme Value.isLess (← choices scope arguments))

/-- Ends the script if two neighbours cannot be compared. -/
def requireComparable : List Value → Except Stop Unit
  | first :: second :: rest => do
      let _ ← second.isLess first
      requireComparable (second :: rest)
  | _ => .ok ()

/-- The items of a value from the least on.  Equal ones keep their order. -/
def sorted : Builtin := fun scope arguments => do
  match arguments with
  | [value] => do
      let items ← Iteration.collect scope.call value
      let isInOrder (first second : Value) : Bool :=
        match second.isLess first with
        | .ok isLess => !isLess
        | .error _ => true
      let items := items.mergeSort isInOrder
      Machine.ofExcept (requireComparable items)
      return .list items
  | _ => throw .typeError

/-! ## Texts -/

/-- The text with the code point of a number. -/
def chr (value : Value) : Except Stop Value := do
  let point ← index value
  if point < 0 ∨ 0x110000 ≤ point then throw .valueError
  return .text (.plain [point.toNat])

/-- The number of the only code point of a text. -/
def ord : Value → Except Stop Value
  | .text content =>
      match content.length, content.points with
      | 1, [point] => .ok (.integer point)
      | _, _ => .error .typeError
  | .bytes _ [byte] => .ok (.integer byte.toNat)
  | _ => .error .typeError

/-- Prints values on a line, with blanks between them. -/
def print : Builtin := fun _ arguments => do
  let shown ← Machine.ofExcept (arguments.mapM Value.display)
  let characters ← Machine.ofExcept (shown.mapM Format.characters)
  Machine.print (" ".intercalate (characters.map String.ofList) ++ "\n")
  return .nothing

/-- A value as it would be written in a script, as a text. -/
def repr (value : Value) : Except Stop Value := value.quoted.map Value.ofString

/-- A value as it would be written in a script with the first 128 characters only. -/
def ascii (value : Value) : Except Stop Value :=
  value.quoted.map fun text => .ofString (Value.asciiOnly text)

/-- The number of things in a value. -/
def len (value : Value) : Except Stop Value :=
  match value.length? with
  | some length => .ok (.integer length)
  | none => .error .typeError

/-- A value shown as a specification tells, as a text. -/
def format : Builtin := fun _ arguments =>
  Machine.ofExcept do
    match arguments with
    | [value] => return .text (← value.format [])
    | [value, .text specification] =>
        return .text (← value.format (← Format.characters specification))
    | _ => throw .typeError

/-! ## Kinds -/

mutual

/-- Whether one of the kinds that a value names, maybe in tuples, is one for which it holds. -/
def isOneOf (holds : String → Bool) : Value → Except Stop Bool
  | .kind name => .ok (holds name)
  | .tuple kinds => isOneOfAll holds kinds
  | _ => .error .typeError

/-- Whether one of the kinds that some values name is one for which it holds. -/
def isOneOfAll (holds : String → Bool) : List Value → Except Stop Bool
  | [] => .ok false
  | kind :: rest => do if ← isOneOf holds kind then return true else isOneOfAll holds rest

end

/-- Whether a value is of a kind, or of one of the kinds of a tuple. -/
def isinstance : Builtin := fun _ arguments =>
  match arguments with
  | [value, kinds] => do
      return .truth (← Machine.ofExcept (isOneOf (Kind.isKind value.kindName) kinds))
  | _ => throw .typeError

/-- Whether a kind is part of another one, or of one of the kinds of a tuple. -/
def issubclass : Builtin := fun _ arguments =>
  match arguments with
  | [.kind name, kinds] => do return .truth (← Machine.ofExcept (isOneOf (Kind.isKind name) kinds))
  | _ => throw .typeError

/-- Stands for the number by which a value is told from all others in a run. -/
def identity : Int := 0x7f0000000000

/-- The number by which a value is told from others. -/
def id (_ : Value) : Except Stop Value := .ok (.integer identity)

/-- Stands for the hashes that are not the same in every run. -/
def anyHash : Int := 0x7f000000000

/-- The hash of nothing. -/
def hashOfNothing : Int := 0xFCA86420

/-- The hash of a value that can be in a set. -/
def hash (value : Value) : Except Stop Value :=
  if !value.isHashable then .error .typeError
  else
    match value, value.number? with
    | _, some number => .ok (.integer number.hash)
    | .nothing, _ => .ok (.integer hashOfNothing)
    | value, none => .ok (.integer (if value.length? = some 0 then 0 else anyHash))

/-! ## Giving values one by one -/

/-- What gives the items of a value, or the results of a function up to a last one. -/
def iter : Builtin := fun _ arguments => do
  match arguments with
  | [value] => Iteration.ofValue value
  | [function, last] =>
      if !function.isCallable then throw .typeError
      return .iterator "callable_iterator" (← Machine.start (.calls function last))
  | _ => throw .typeError

/-- The next value, or another one when there are no more. -/
def next : Builtin := fun scope arguments => do
  match arguments with
  | [.iterator _ place] =>
      match ← Iteration.next scope.call place with
      | some value => return value
      | none => throw .stopIteration
  | [.iterator _ place, default] => return (← Iteration.next scope.call place).getD default
  | _ => throw .typeError

/-- Whether all items of the only argument count as true, or whether one of them does. -/
def quantified (isUniversal : Bool) : Builtin := fun scope arguments => do
  match arguments with
  | [value] =>
      let isFound ← Iteration.anyIs scope.call (!isUniversal) value
      return .truth (isFound ≠ isUniversal)
  | _ => throw .typeError

/-! ## Names -/

/-- Names with their values as a dictionary. -/
def dictionaryOf (names : List (String × Value)) : Value :=
  .dictionary (names.map fun (name, value) => (.ofString name, value))

/-- The names that are known where a function is called, with their values. -/
def known (select : Scope → Unit → List (String × Value)) : Builtin := fun scope arguments =>
  match arguments with
  | [] => return dictionaryOf (select scope ())
  | _ => throw .typeError

/-- The names that have values in the body from which it is called, in order. -/
def dir : Builtin := fun scope arguments =>
  match arguments with
  | [] =>
      let names := (scope.locals ()).map Prod.fst
      let inOrder := names.mergeSort fun first second => decide (first ≤ second)
      return .list (inOrder.map Value.ofString)
  | _ => throw .typeError

/-! ## All functions -/

/-- The functions that do something. -/
def functions : List (String × Builtin) :=
  [("abs", ofOne abs), ("all", quantified true), ("any", quantified false), ("ascii", ofOne ascii),
    ("bin", ofOne (inBase 'b' 2)), ("callable", ofOne fun value => .ok (.truth value.isCallable)),
    ("chr", ofOne chr), ("dir", dir), ("divmod", divmod), ("format", format),
    ("globals", known Scope.globals), ("hash", ofOne hash), ("hex", ofOne (inBase 'x' 16)),
    ("id", ofOne id), ("isinstance", isinstance), ("issubclass", issubclass), ("iter", iter),
    ("len", ofOne len), ("locals", known Scope.locals), ("max", max), ("min", min), ("next", next),
    ("oct", ofOne (inBase 'o' 8)), ("ord", ofOne ord), ("pow", pow), ("print", print),
    ("repr", ofOne repr), ("round", round), ("sorted", sorted), ("sum", sum),
    ("vars", known Scope.locals)]

/-- The functions that lead outside of a script. -/
def outside : List String :=
  ["__build_class__", "__import__", "aiter", "anext", "breakpoint", "compile", "delattr", "eval",
    "exec", "getattr", "hasattr", "input", "open", "setattr"]

/-- Calls a function by its name. -/
def apply (name : String) : Builtin := fun scope arguments =>
  match functions.lookup name with
  | some function => function scope arguments
  | none => throw .typeError

/-- Whether a name is that of a function. -/
def isName (name : String) : Bool := (functions.lookup name).isSome || outside.contains name

end Builtin

end TinyC.Script
