import TinyC.Script.Value

/-!
# Machines

A running script prints text, and it may stop before its end.  What gives values
one by one has a state, too, and the machine keeps it.
-/

namespace TinyC.Script

/-- What is left to be given by something that gives values one by one.  Others that it takes its
values from are told by their places. -/
inductive Iterator
  | items (rest : List Value)
  | steps (next step : Int) (remaining : Nat)
  /-- The values of another one with their numbers. -/
  | numbered (next : Int) (source : Nat)
  /-- The values of others, one of each at a time. -/
  | together (sources : List Nat)
  /-- The results of a function for the values of others. -/
  | mapped (function : Value) (sources : List Nat)
  /-- The values of another one that pass a test. -/
  | filtered (test : Value) (source : Nat)
  /-- The results of a function up to a last one. -/
  | calls (function last : Value)

/-- What a machine keeps. -/
structure State where
  output : String := ""
  iterators : Array Iterator := #[]

/-- A computation that may stop. -/
abbrev Machine (α : Type) : Type := ExceptT Stop (StateM State) α

namespace Machine

/-- A result that needs no machine. -/
def ofExcept {α : Type} (result : Except Stop α) : Machine α := ExceptT.mk (pure result)

/-- Prints a text. -/
def print (text : String) : Machine Unit :=
  modify fun state => { state with output := state.output ++ text }

/-- Puts something that gives values into a place of its own. -/
def start (iterator : Iterator) : Machine Nat :=
  modifyGet fun state =>
    (state.iterators.size, { state with iterators := state.iterators.push iterator })

/-- What gives values at a place. -/
def iteratorAt (place : Nat) : Machine Iterator := do
  return ((← get).iterators[place]?).getD (.items [])

/-- Changes what gives values at a place. -/
def setIterator (place : Nat) (iterator : Iterator) : Machine Unit :=
  modify fun state =>
    { state with iterators := state.iterators.setIfInBounds place iterator }

end Machine

end TinyC.Script
