import TinyC.Script.Machine
import TinyC.Script.Value.Comparison

/-!
# Giving values one by one

Everything that has items gives them one by one, and so do values made for this
purpose, which compute the next value only when it is asked for.

## Strategy

A place is taken after those from which it takes its values, so they come before
it.  `advance` recurses on a bound for the place, and repeats a step only within
the limit for the number of items.
-/

namespace TinyC.Script

/-- What calling a value with arguments gives. -/
abbrev Call : Type := Value → List Value → Machine Value

namespace Iteration

/-- The largest number of values that are asked for one after another. -/
def limit : Nat := 1000000000

/-! ## Items -/

/-- The items of a range. -/
def rangeItems (start step : Int) (length : Nat) : List Value :=
  (List.range length).map fun (index : Nat) => .integer (start + step * index)

/-- The items of a value that has its items at hand. -/
def items? : Value → Option (List Value)
  | .text content => some (content.points.map fun point => .text (.plain [point]))
  | .bytes _ content => some (content.map fun byte => .integer byte.toNat)
  | .list items | .tuple items | .set _ items => some items
  | .dictionary entries => some (entries.map Prod.fst)
  | .range start stop step => some (rangeItems start step (Value.rangeLength start stop step))
  | _ => none

/-- The kind of what gives the items of a value. -/
def kindFor : Value → String
  | .text content => if content.points.all (· < 0x80) then "str_ascii_iterator" else "str_iterator"
  | .range _ _ _ => "range_iterator"
  | .set _ _ => "set_iterator"
  | .dictionary _ => "dict_keyiterator"
  | value => value.kindName ++ "_iterator"

/-- What gives the items of a value. -/
def ofValue (value : Value) : Machine Value :=
  match value with
  | .iterator kind place => return .iterator kind place
  | .range start stop step => do
      let place ← Machine.start (.steps start step (Value.rangeLength start stop step))
      return .iterator (kindFor value) place
  | value =>
      match items? value with
      | some items => do return .iterator (kindFor value) (← Machine.start (.items items))
      | none => throw .typeError

/-- The place of what gives the items of a value. -/
def placeOf (value : Value) : Machine Nat := do
  match ← ofValue value with
  | .iterator _ place => return place
  | _ => throw .typeError

/-! ## The next value -/

/-- The next values of several places, unless one of them has no more. -/
def nextOfAll (next : Nat → Machine (Option Value)) : List Nat → Machine (Option (List Value))
  | [] => return some []
  | place :: rest => do
      match ← next place with
      | none => return none
      | some first => return (← nextOfAll next rest).map (first :: ·)

/-- The next value that passes a test. -/
def nextPassing (next : Machine (Option Value)) (test : Value → Machine Bool) :
    Nat → Machine (Option Value)
  | 0 => throw .memoryError
  | remaining + 1 => do
      match ← next with
      | none => return none
      | some value =>
          if ← test value then return some value
          else nextPassing next test remaining

/-- The next value of a place, if it has more. -/
def advance (call : Call) : (bound place : Nat) → Machine (Option Value)
  | 0, _ => throw .recursionError
  | bound + 1, place => do
      match ← Machine.iteratorAt place with
      | .items [] => return none
      | .items (value :: rest) => do
          Machine.setIterator place (.items rest)
          return some value
      | .steps _ _ 0 => return none
      | .steps next step (remaining + 1) => do
          Machine.setIterator place (.steps (next + step) step remaining)
          return some (.integer next)
      | .numbered next source => do
          match ← advance call bound source with
          | none => return none
          | some value => do
              Machine.setIterator place (.numbered (next + 1) source)
              return some (.tuple [.integer next, value])
      | .together [] => return none
      | .together sources => do
          return (← nextOfAll (advance call bound) sources).map Value.tuple
      | .mapped function sources => do
          match ← nextOfAll (advance call bound) sources with
          | none => return none
          | some arguments => return some (← call function arguments)
      | .filtered test source => do
          let passes (value : Value) : Machine Bool := do
            match test with
            | .nothing => return value.isTrue
            | test => return (← call test [value]).isTrue
          nextPassing (advance call bound source) passes limit
      | .calls function last => do
          let value ← call function []
          if value.equal last then
            Machine.setIterator place (.items [])
            return none
          else return some value

/-- The next value of a place, if it has more. -/
def next (call : Call) (place : Nat) : Machine (Option Value) := advance call (place + 1) place

/-! ## All values -/

/-- All values that are left to be given, after those given already, the last one first. -/
def drain (next : Machine (Option Value)) : (remaining : Nat) → (given : List Value) →
    Machine (List Value)
  | 0, _ => throw .memoryError
  | remaining + 1, given => do
      match ← next with
      | none => return given.reverse
      | some value => drain next remaining (value :: given)

/-- The items of a value. -/
def collect (call : Call) (value : Value) : Machine (List Value) := do
  match items? value with
  | some items => return items
  | none => drain (next call (← placeOf value)) limit []

/-- The items of each of some values. -/
def collectAll (call : Call) : List Value → Machine (List (List Value))
  | [] => return []
  | value :: rest => do
      let first ← collect call value
      return first :: (← collectAll call rest)

/-- Whether a value that is given counts as true, or as false if that is asked for. -/
def anyIs (call : Call) (wanted : Bool) (value : Value) : Machine Bool := do
  let place ← placeOf value
  let found ← nextPassing (next call place) (fun item => return item.isTrue = wanted) limit
  return found.isSome

end Iteration

end TinyC.Script
