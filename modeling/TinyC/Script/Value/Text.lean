import TinyC.Script.Value
import TinyC.Unicode.Assigned

/-!
# Values as text

A value can be shown, and it can be quoted.  Quoting gives what could be
written in a script for the value, as far as there is such a thing; a text is
shown as it is, but quoted between quotes, with escapes for what cannot be seen.
Inside of other values all values are quoted.
-/

namespace TinyC.Script.Value

/-! ## Numbers -/

/-- The largest number of digits in which an integer is written. -/
def digitLimit : Nat := 4300

/-- The decimal text of an integer that is not too long. -/
def decimal (value : Int) : Except Stop String :=
  let text := Numeral.ofInt value
  if digitLimit < (text.toList.filter Char.isDigit).length then .error .valueError else .ok text

/-! ## Quotes -/

/-- The quote for a text: the double one only where that saves escapes. -/
def quoteFor (points : List Nat) : Char :=
  if points.contains '\''.toNat && !points.contains '"'.toNat then '"' else '\''

/-- A number in hexadecimal with leading zeros up to the given number of digits. -/
def padded (length value : Nat) : List Char :=
  Decimal.atLeast length (Numeral.digits 16 value)

/-- A code point by its number. -/
def numbered (point : Nat) : List Char :=
  if point ≤ 0xFF then ['\\', 'x'] ++ padded 2 point
  else if point ≤ 0xFFFF then ['\\', 'u'] ++ padded 4 point
  else ['\\', 'U'] ++ padded 8 point

/-- One code point between the given quotes, if those for which it holds stand for themselves. -/
def quotePoint (standsForItself : Nat → Bool) (quote : Char) (point : Nat) : List Char :=
  if point = quote.toNat ∨ point = '\\'.toNat then ['\\', Char.ofNat point]
  else if point = '\n'.toNat then ['\\', 'n']
  else if point = '\t'.toNat then ['\\', 't']
  else if point = '\r'.toNat then ['\\', 'r']
  else if standsForItself point then [Char.ofNat point]
  else numbered point

/-- Code points between quotes. -/
def quotePoints (standsForItself : Nat → Bool) (points : List Nat) : List Char :=
  let quote := quoteFor points
  [quote] ++ points.flatMap (quotePoint standsForItself quote) ++ [quote]

/-- Whether a code point can be seen. -/
def canBeSeen (point : Nat) : Bool :=
  !Rope.isSurrogate point && Unicode.wasPrintable (Char.ofNat point)

/-- A text between quotes. -/
def quoteText (content : Rope) : String := String.ofList (quotePoints canBeSeen content.points)

/-- Whether a byte stands for a character that can be seen. -/
def isVisibleByte (byte : Nat) : Bool := 0x20 ≤ byte && byte < 0x7F

/-- A row of bytes between quotes. -/
def quoteBytes (content : List UInt8) : String :=
  String.ofList ('b' :: quotePoints isVisibleByte (content.map UInt8.toNat))

/-- A row of bytes that can be changed.  Single quotes are escaped in it between any quotes. -/
def quoteArray (content : List UInt8) : String :=
  let points := content.map UInt8.toNat
  let quote := quoteFor points
  let escape (point : Nat) : List Char :=
    if point = '\''.toNat then ['\\', '\'']
    else if point = '"'.toNat then ['"']
    else quotePoint isVisibleByte quote point
  "bytearray(" ++ String.ofList (['b', quote] ++ points.flatMap escape ++ [quote]) ++ ")"

/-- A text whose characters beyond the first 128 are given by their numbers. -/
def asciiOnly (text : String) : String :=
  String.ofList (text.toList.flatMap fun c => if c.val < 0x80 then [c] else numbered c.toNat)

/-! ## Values -/

/-- Stands for the place of a value in memory, which is not the same in every run. -/
def address : String := "0x7f0000000000"

/-- A value that is shown by its place. -/
def placed (description : String) : String := "<" ++ description ++ " at " ++ address ++ ">"

/-- Texts as the items of a value. -/
def items (texts : List String) : String := ", ".intercalate texts

/-- A text between parentheses. -/
def parenthesized (text : String) : String := "(" ++ text ++ ")"

/-- A text between braces. -/
def braced (text : String) : String := "\x7b" ++ text ++ "\x7d"

/-- Texts as the items of a tuple.  A single one needs a comma. -/
def tupleOf : List String → String
  | [single] => parenthesized (single ++ ",")
  | texts => parenthesized (items texts)

/-- Texts as the items of a set. -/
def setOf (isFrozen : Bool) (texts : List String) : String :=
  let shown := if texts.isEmpty then "" else braced (items texts)
  if isFrozen then "frozenset" ++ parenthesized shown
  else if texts.isEmpty then "set()"
  else shown

/-- What calling a function tells that ends the script. -/
def quitterText (name : String) : String := "Use " ++ name ++ "() or Ctrl-D (i.e. EOF) to exit"

mutual

/-- A value as it would be written in a script. -/
def quoted : Value → Except Stop String
  | .nothing => .ok "None"
  | .marker name => .ok name
  | .truth value => .ok (if value then "True" else "False")
  | .integer value => decimal value
  | .fraction value => .ok (String.ofList (Number.shortestText value))
  | .text content => .ok (quoteText content)
  | .bytes isMutable content =>
      .ok (if isMutable then quoteArray content else quoteBytes content)
  | .list content => do return "[" ++ items (← quotedAll content) ++ "]"
  | .tuple content => do return tupleOf (← quotedAll content)
  | .set isFrozen content => do return setOf isFrozen (← quotedAll content)
  | .dictionary entries => do return braced (items (← quotedEntries entries))
  | .range start stop step => do
      let ends := [← decimal start, ← decimal stop]
      let steps := [← decimal step]
      return "range" ++ parenthesized (items (if step = 1 then ends else ends ++ steps))
  | .slice start stop step => do
      return "slice" ++ parenthesized (items [← start.quoted, ← stop.quoted, ← step.quoted])
  | .function definition => .ok (placed ("function " ++ definition.name))
  | .provided known => .ok (placed ("function " ++ known.name))
  | .builtin name => .ok ("<built-in function " ++ name ++ ">")
  | .kind name => .ok ("<class '" ++ name ++ "'>")
  | .error name arguments => do return name ++ parenthesized (items (← quotedAll arguments))
  | .quitter name => .ok (quitterText name)
  | .notice _ shown => .ok shown
  | .library name => .ok ("<module '" ++ name ++ "' (built-in)>")
  | .object name | .iterator name _ => .ok (placed (name ++ " object"))

/-- The values of a list as they would be written in a script. -/
def quotedAll : List Value → Except Stop (List String)
  | [] => .ok []
  | value :: rest => do return (← value.quoted) :: (← quotedAll rest)

/-- The entries of a dictionary as they would be written in a script. -/
def quotedEntries : List (Value × Value) → Except Stop (List String)
  | [] => .ok []
  | (key, value) :: rest => do
      return ((← key.quoted) ++ ": " ++ (← value.quoted)) :: (← quotedEntries rest)

end

/-- A value as it is shown. -/
def display : Value → Except Stop Rope
  | .text content => .ok content
  | .error name arguments =>
      match arguments with
      | [] => .ok (.ofString (if Kind.isKind name "SyntaxError" then "None" else ""))
      | [argument] =>
          if name = "KeyError" then argument.quoted.map Rope.ofString else argument.display
      | [number, message] =>
          if Kind.isKind name "OSError" then do
            let number ← number.display
            let message ← message.display
            return .joined (.joined (.ofString "[Errno ") number) (.joined (.ofString "] ") message)
          else (quotedAll arguments).map fun texts => .ofString (tupleOf texts)
      | _ => (quotedAll arguments).map fun texts => .ofString (tupleOf texts)
  | value => value.quoted.map Rope.ofString

end TinyC.Script.Value
