import TinyC.Script.Arrangement

/-!
# Calculating with values

The operations that expressions can ask for.  Numbers are added, subtracted and
multiplied; rows of things are put together and repeated; a set can be taken
away from a set.
-/

namespace TinyC.Script

/-- The result of an operation on numbers. -/
def calculated {α : Type} (result : Except NumberError α) : Except Stop α :=
  result.mapError Stop.ofNumberError

/-- What an operator does to numbers. -/
def Operator.onNumbers : Operator → Number → Number → Except NumberError Number
  | .add => Number.add
  | .sub => Number.sub
  | .mul => Number.mul

/-- The largest number of code points or bytes that a value may have. -/
def lengthLimit : Nat := 10000000000

/-- The largest number of items that a value may have. -/
def itemLimit : Nat := 100000000

/-- A list repeated, if that does not make it too long. -/
def repeated {α : Type} (items : List α) (times : Nat) : Except Stop (List α) :=
  if items.isEmpty then .ok []
  else if itemLimit < items.length * times then .error .memoryError
  else .ok (List.replicate times items).flatten

/-- A value repeated as often as a number says. -/
def Value.times (value : Value) (times : Int) : Except Stop Value :=
  let times := times.toNat
  match value with
  | .text content =>
      if lengthLimit < content.length * times then .error .memoryError
      else .ok (.text (content.times times))
  | .bytes isMutable content => (repeated content times).map (Value.bytes isMutable)
  | .list items => (repeated items times).map Value.list
  | .tuple items => (repeated items times).map Value.tuple
  | _ => .error .typeError

/-- The result of an operation on values that are not both numbers. -/
def Operator.onRows (operator : Operator) (left right : Value) : Except Stop Value :=
  match operator, left, right with
  | .add, .text left, .text right => .ok (.text (.joined left right))
  | .add, .bytes isMutable left, .bytes _ right => .ok (.bytes isMutable (left ++ right))
  | .add, .list left, .list right => .ok (.list (left ++ right))
  | .add, .tuple left, .tuple right => .ok (.tuple (left ++ right))
  | .sub, .set isFrozen left, .set _ right =>
      .ok (.set isFrozen (Arrangement.without left right))
  | .mul, left, right =>
      match left.index?, right.index? with
      | none, some times => left.times times
      | some times, none => right.times times
      | _, _ => .error .typeError
  | _, _, _ => .error .typeError

/-- The result of an operation. -/
def Operator.apply (operator : Operator) (left right : Value) : Except Stop Value :=
  match left.number?, right.number? with
  | some first, some second => (calculated (operator.onNumbers first second)).map Value.ofNumber
  | _, _ => operator.onRows left right

/-- The quotient of two values, rounded towards zero. -/
def Value.quotient (left right : Value) : Except Stop Value :=
  match left.number?, right.number? with
  | some first, some second => (calculated (first.quotient second)).map Value.ofNumber
  | _, _ => .error .typeError

end TinyC.Script
