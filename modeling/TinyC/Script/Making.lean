import TinyC.Script.Arrangement
import TinyC.Script.Iteration
import TinyC.Script.Reading
import TinyC.Script.Value.Arithmetic
import TinyC.Script.Value.Text
import TinyC.Text.Bytes

/-!
# Values made by calling kinds

Most kinds can be called, and give a value of that kind: one made from another
value, or an empty one.
-/

namespace TinyC.Script.Making

/-! ## Parts of the arguments -/

/-- The whole number that an argument stands for. -/
def index (value : Value) : Machine Int :=
  match value.index? with
  | some index => return index
  | none => throw .typeError

/-- The characters of an argument that is a text, or that stand for its bytes. -/
def characters? : Value → Option (List Char)
  | .text content => content.characters?
  | .bytes _ content => some (content.map fun byte => Char.ofNat byte.toNat)
  | _ => none

/-- Ends the script if one of some values cannot be in a set. -/
def requireHashable (items : List Value) : Machine Unit :=
  if Value.allHashable items then return () else throw .typeError

/-! ## Numbers -/

/-- The whole number that a text stands for. -/
def wholeIn (base : Nat) (value : Value) : Machine Value :=
  match characters? value with
  | none => throw .typeError
  | some text =>
      match Reading.whole? base text with
      | some whole => return .integer whole
      | none => throw .valueError

/-- The smallest base in which a number can be read. -/
def leastBase : Int := 2

/-- The largest base in which a number can be read. -/
def largestBase : Int := 36

/-- A whole number: zero, a number without its fraction, or what a text stands for in a base. -/
def whole : List Value → Machine Value
  | [] => return .integer 0
  | [value] =>
      match value.number? with
      | some (.whole whole) => return .integer whole
      | some (.binary fraction) => do
          return .integer (← Machine.ofExcept (calculated (Number.truncate fraction)))
      | none => wholeIn 10 value
  | [value, base] => do
      let base ← index base
      if base ≠ 0 ∧ (base < leastBase ∨ largestBase < base) then throw .valueError
      wholeIn base.toNat value
  | _ => throw .typeError

/-- A fraction: zero, or the one nearest to a number or to what a text stands for. -/
def fraction : List Value → Machine Value
  | [] => return .fraction 0
  | [value] =>
      match value.number? with
      | some number => do return .fraction (← Machine.ofExcept (calculated number.toFloat))
      | none =>
          match characters? value with
          | none => throw .typeError
          | some text =>
              match Reading.fraction? text with
              | some fraction => return .fraction fraction
              | none => throw .valueError
  | _ => throw .typeError

/-- Whether a value counts as true. -/
def truth : List Value → Machine Value
  | [] => return .truth false
  | [value] => return .truth value.isTrue
  | _ => throw .typeError

/-! ## Texts and bytes -/

/-- The code points up to which a character stands for one byte, by the name of an encoding. -/
def singleBytes? (name : String) : Option Nat :=
  [("ascii", 0x80), ("us-ascii", 0x80), ("latin-1", 0x100), ("latin1", 0x100),
    ("iso-8859-1", 0x100)].lookup name

/-- Whether a name is that of the usual encoding. -/
def isUsual (name : String) : Bool := ["utf-8", "utf8", "u8"].contains name

/-- The name of an encoding, in the one spelling that is compared. -/
def encodingName (name : Rope) : String :=
  String.ofList (name.points.map fun point =>
    if point = '_'.toNat then '-' else (Char.ofNat point).toLower)

/-- The bytes of a text. -/
def encode (name content : Rope) : Machine Value :=
  match content.characters? with
  | none => throw .encodeError
  | some characters =>
      if isUsual (encodingName name) then
        return .bytes false (Text.encode (String.ofList characters))
      else
        match singleBytes? (encodingName name) with
        | none => throw .valueError
        | some bound =>
            if characters.any fun c => bound ≤ c.toNat then throw .encodeError
            else return .bytes false (characters.map fun c => c.toNat.toUInt8)

/-- The text of bytes. -/
def decode (name : Rope) (content : List UInt8) : Machine Value :=
  if isUsual (encodingName name) then
    match Text.decode? content with
    | some text => return .ofString text
    | none => throw .encodeError
  else
    match singleBytes? (encodingName name) with
    | none => throw .valueError
    | some bound =>
        if content.any fun byte => bound ≤ byte.toNat then throw .encodeError
        else return .text (.plain (content.map UInt8.toNat))

/-- A text: the empty one, a value as it is shown, or what bytes stand for. -/
def text : List Value → Machine Value
  | [] => return .text .empty
  | [value] => do return .text (← Machine.ofExcept value.display)
  | .bytes _ content :: .text encoding :: _ => decode encoding content
  | _ => throw .typeError

/-- The byte that a value stands for. -/
def byte (value : Value) : Machine UInt8 := do
  let index ← index value
  if index < 0 ∨ 256 ≤ index then throw .valueError
  return index.toNat.toUInt8

/-- A row of bytes: the empty one, zeros, the bytes of a text, or those that items stand for. -/
def bytes (call : Call) (isMutable : Bool) (arguments : List Value) : Machine Value := do
  match arguments with
  | [] => return .bytes isMutable []
  | .text content :: .text encoding :: _ =>
      match ← encode encoding content with
      | .bytes _ encoded => return .bytes isMutable encoded
      | _ => throw .typeError
  | [.text _] => throw .typeError
  | [value] =>
      match value.index? with
      | some length =>
          if length < 0 then throw .valueError
          if lengthLimit < length.toNat then throw .memoryError
          return .bytes isMutable (List.replicate length.toNat 0)
      | none => return .bytes isMutable (← (← Iteration.collect call value).mapM byte)
  | _ => throw .typeError

/-! ## Values with items -/

/-- The items of the only argument, if there is one. -/
def itemsOf (call : Call) : List Value → Machine (List Value)
  | [] => return []
  | [value] => Iteration.collect call value
  | _ => throw .typeError

/-- A set of the items of a value. -/
def set (call : Call) (isFrozen : Bool) (arguments : List Value) : Machine Value := do
  match isFrozen, arguments with
  | true, [.set true items] => return .set true items
  | _, [.set _ items] => return .set isFrozen (Arrangement.copied items)
  | _, arguments =>
      let items ← itemsOf call arguments
      requireHashable items
      return .set isFrozen (Arrangement.arranged (Value.distinct items))

/-- The entries of a dictionary from their keys and values. -/
def entries (pairs : List (List Value)) : Machine (List (Value × Value)) :=
  pairs.foldlM (fun entries pair =>
    match pair with
    | [key, value] => do
        requireHashable [key]
        return Value.insert key value entries
    | _ => throw .valueError) []

/-- A dictionary of the pairs that are the items of a value. -/
def dictionary (call : Call) : List Value → Machine Value
  | [] => return .dictionary []
  | [.dictionary entries] => return .dictionary entries
  | [value] => do
      let pairs ← Iteration.collectAll call (← Iteration.collect call value)
      return .dictionary (← entries pairs)
  | _ => throw .typeError

/-- A range from its stop, from its start and its stop, or from these and its step. -/
def range (arguments : List Value) : Machine Value := do
  match ← arguments.mapM index with
  | [stop] => return .range 0 stop 1
  | [start, stop] => return .range start stop 1
  | [start, stop, step] =>
      if step = 0 then throw .valueError
      return .range start stop step
  | _ => throw .typeError

/-- A slice from its stop, from its start and its stop, or from these and its step. -/
def slice : List Value → Machine Value
  | [stop] => return .slice .nothing stop .nothing
  | [start, stop] => return .slice start stop .nothing
  | [start, stop, step] => return .slice start stop step
  | _ => throw .typeError

/-! ## What gives values one by one -/

/-- What gives the items of a value with their numbers. -/
def enumerate (arguments : List Value) : Machine Value := do
  let numbered (value : Value) (first : Int) : Machine Value := do
    let source ← Iteration.placeOf value
    return .iterator "enumerate" (← Machine.start (.numbered first source))
  match arguments with
  | [value] => numbered value 0
  | [value, first] => numbered value (← index first)
  | _ => throw .typeError

/-- What gives tuples of one item of each value. -/
def together (arguments : List Value) : Machine Value := do
  let sources ← arguments.mapM Iteration.placeOf
  return .iterator "zip" (← Machine.start (.together sources))

/-- What gives the results of a function for the items of values. -/
def mapped : List Value → Machine Value
  | function :: first :: rest => do
      let sources ← (first :: rest).mapM Iteration.placeOf
      return .iterator "map" (← Machine.start (.mapped function sources))
  | _ => throw .typeError

/-- What gives the items of a value that pass a test. -/
def filtered : List Value → Machine Value
  | [test, value] => do
      let source ← Iteration.placeOf value
      return .iterator "filter" (← Machine.start (.filtered test source))
  | _ => throw .typeError

/-- The kind of what gives the items of a value from the last one on. -/
def reversedKind? : Value → Option String
  | .list _ => some "list_reverseiterator"
  | .dictionary _ => some "dict_reversekeyiterator"
  | .text _ | .bytes _ _ | .tuple _ => some "reversed"
  | _ => none

/-- What gives the items of a value from the last one on. -/
def reversed : List Value → Machine Value
  | [.range start stop step] => do
      let length := Value.rangeLength start stop step
      let last := start + step * (length - 1 : Int)
      return .iterator "range_iterator" (← Machine.start (.steps last (-step) length))
  | [value] =>
      match reversedKind? value, Iteration.items? value with
      | some kind, some items => do
          return .iterator kind (← Machine.start (.items items.reverse))
      | _, _ => throw .typeError
  | _ => throw .typeError

/-! ## Errors -/

/-- The errors that are not made from any arguments, but tell about a fault in full. -/
def elaborateErrors : List String :=
  ["BaseExceptionGroup", "ExceptionGroup", "UnicodeDecodeError", "UnicodeEncodeError",
    "UnicodeTranslateError"]

/-- Whether an error is made from arguments that do not tell the place of a fault. -/
def isMadeFrom (kind : String) (arguments : List Value) : Bool :=
  if Kind.isKind kind "SyntaxError" then arguments.length < 2 else !elaborateErrors.contains kind

/-! ## All kinds -/

/-- The value made by calling a kind. -/
def make (call : Call) (kind : String) (arguments : List Value) : Machine Value :=
  match kind, arguments with
  | "bool", arguments => truth arguments
  | "bytearray", arguments => bytes call true arguments
  | "bytes", arguments => bytes call false arguments
  | "dict", arguments => dictionary call arguments
  | "enumerate", arguments => enumerate arguments
  | "filter", arguments => filtered arguments
  | "float", arguments => fraction arguments
  | "frozenset", arguments => set call true arguments
  | "int", arguments => whole arguments
  | "list", arguments => do return .list (← itemsOf call arguments)
  | "map", arguments => mapped arguments
  | "object", [] => return .object "object"
  | "range", arguments => range arguments
  | "reversed", arguments => reversed arguments
  | "set", arguments => set call false arguments
  | "slice", arguments => slice arguments
  | "str", arguments => text arguments
  | "tuple", arguments => do return .tuple (← itemsOf call arguments)
  | "type", [value] => return .kind value.kindName
  | "zip", arguments => together arguments
  | kind, arguments =>
      if Kind.isError kind && isMadeFrom kind arguments then return .error kind arguments
      else throw .typeError

end TinyC.Script.Making
