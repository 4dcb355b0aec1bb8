import TinyC.Script
import TinyC.Script.Kind
import TinyC.Script.Number
import TinyC.Script.Rope

/-!
# Values of scripts

What expressions of a script stand for when it runs, and the ways in which a
run can stop before its end.
-/

namespace TinyC.Script

/-- The functions that the first lines of every script define. -/
inductive Provided
  | printf
  | divide
  deriving DecidableEq, Repr

/-- The name of a function that the first lines define. -/
def Provided.name : Provided → String
  | .printf => "printf"
  | .divide => divisionName

/-- A value. -/
inductive Value
  | nothing
  /-- A value that is known by its name alone. -/
  | marker (name : String)
  | truth (value : Bool)
  | integer (value : Int)
  | fraction (value : Float)
  | text (content : Rope)
  | bytes (isMutable : Bool) (content : List UInt8)
  | list (items : List Value)
  | tuple (items : List Value)
  | set (isFrozen : Bool) (items : List Value)
  | dictionary (entries : List (Value × Value))
  | range (start stop step : Int)
  | slice (start stop step : Value)
  | function (definition : Definition)
  | provided (function : Provided)
  /-- A function that is known without a definition. -/
  | builtin (name : String)
  | kind (name : String)
  | error (kind : String) (arguments : List Value)
  /-- A function that ends the script when it is called. -/
  | quitter (name : String)
  /-- A function that is shown as a text, with the name of its kind. -/
  | notice (kind text : String)
  | library (name : String)
  /-- A value of which no more is known than its kind. -/
  | object (kind : String)
  /-- What gives values one by one.  The place tells where the machine keeps its state. -/
  | iterator (kind : String) (place : Nat)

/-- Why a run stops before its end. -/
inductive Stop
  | nameError (name : String)
  | unboundLocalError (name : String)
  | attributeError
  | typeError
  | valueError
  | overflowError
  | memoryError
  | zeroDivisionError
  | recursionError
  | encodeError
  | stopIteration
  /-- The script asks to stop, with a value that tells how it went. -/
  | exit (value : Value)

namespace Stop

/-- The name of a stop that the script did not ask for. -/
def name : Stop → String
  | .nameError name => "NameError: name '" ++ name ++ "' is not defined"
  | .unboundLocalError _ => "UnboundLocalError"
  | .attributeError => "AttributeError"
  | .typeError => "TypeError"
  | .valueError => "ValueError"
  | .overflowError => "OverflowError"
  | .memoryError => "MemoryError"
  | .zeroDivisionError => "ZeroDivisionError"
  | .recursionError => "RecursionError"
  | .encodeError => "UnicodeEncodeError"
  | .stopIteration => "StopIteration"
  | .exit _ => "SystemExit"

/-- The stop for an operation on numbers that has no result. -/
def ofNumberError : NumberError → Stop
  | .divisionByZero => .zeroDivisionError
  | .overflow => .overflowError
  | .invalid => .valueError

end Stop

namespace Value

/-- A text as a value. -/
def ofString (text : String) : Value := .text (.ofString text)

/-- A number as a value. -/
def ofNumber : Number → Value
  | .whole value => .integer value
  | .binary value => .fraction value

/-- The whole number that a value stands for where one is counted or selected. -/
def index? : Value → Option Int
  | .truth value => some (if value then 1 else 0)
  | .integer value => some value
  | _ => none

/-- The number that a value stands for where one calculates. -/
def number? : Value → Option Number
  | .fraction value => some (.binary value)
  | value => value.index?.map Number.whole

/-- The name of the kind of a value. -/
def kindName : Value → String
  | .nothing => "NoneType"
  | .marker name => if name = "Ellipsis" then "ellipsis" else name ++ "Type"
  | .truth _ => "bool"
  | .integer _ => "int"
  | .fraction _ => "float"
  | .text _ => "str"
  | .bytes isMutable _ => if isMutable then "bytearray" else "bytes"
  | .list _ => "list"
  | .tuple _ => "tuple"
  | .set isFrozen _ => if isFrozen then "frozenset" else "set"
  | .dictionary _ => "dict"
  | .range _ _ _ => "range"
  | .slice _ _ _ => "slice"
  | .function _ | .provided _ => "function"
  | .builtin _ => "builtin_function_or_method"
  | .kind _ => "type"
  | .error name _ | .object name | .iterator name _ => name
  | .quitter _ => "_sitebuiltins.Quitter"
  | .notice name _ => name
  | .library _ => "module"

/-- The number of members of a range. -/
def rangeLength (start stop step : Int) : Nat :=
  if 0 < step then ((stop - start + step - 1) / step).toNat
  else if step < 0 then ((start - stop - step - 1) / -step).toNat
  else 0

/-- The number of things in a value, if it has things in it. -/
def length? : Value → Option Nat
  | .text content => some content.length
  | .bytes _ content => some content.length
  | .list items | .tuple items | .set _ items => some items.length
  | .dictionary entries => some entries.length
  | .range start stop step => some (rangeLength start stop step)
  | _ => none

/-- Whether a value counts as true. -/
def isTrue : Value → Bool
  | .nothing => false
  | .truth value => value
  | .integer value => value ≠ 0
  | .fraction value => !(value == 0)
  | value => value.length? ≠ some 0

/-- Whether a value can be called. -/
def isCallable : Value → Bool
  | .function _ | .provided _ | .builtin _ | .kind _ | .quitter _ | .notice _ _ => true
  | _ => false

end Value

end TinyC.Script
