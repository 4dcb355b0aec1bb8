import TinyC.Script.Value.Comparison

/-!
# The order of sets

The items of a set stand in a table, and are met in the order of their places.
The place of an item is told by its hash; if it is taken, others are tried.  A
table of which three fifths are taken is replaced by a larger one.  The hashes of
most texts differ from run to run, and so does their order; here sets with such
items keep them in the order in which they came.
-/

namespace TinyC.Script.Arrangement

/-! ## Places -/

/-- The number of places after the first one that are tried in a row. -/
def row : Nat := 9

/-- The first free place from a place on, among the given number of places. -/
def freeInRow? {α : Type} (table : Array (Option α)) : (count place : Nat) → Option Nat
  | 0, _ => none
  | count + 1, place =>
      match table[place]? with
      | some none => some place
      | _ => freeInRow? table count (place + 1)

/-- The place for an item with a hash.  When a row is taken, the next one begins at a place that
depends on more and more of the hash. -/
def placeFrom {α : Type} (table : Array (Option α)) : (steps place hash : Nat) → Nat
  | 0, place, _ => place
  | steps + 1, place, hash =>
      let count := if place + row < table.size then row + 1 else 1
      match freeInRow? table count place with
      | some free => free
      | none =>
          let hash := hash / 32
          placeFrom table steps ((place * 5 + 1 + hash) % table.size) hash

/-- A table with one more item. -/
def put {α : Type} (table : Array (Option (Nat × α))) (hash : Nat) (item : α) :
    Array (Option (Nat × α)) :=
  let steps := table.size + 16
  table.setIfInBounds (placeFrom table steps (hash % table.size) hash) (some (hash, item))

/-! ## Tables -/

/-- The number of places of the smallest table. -/
def smallest : Nat := 8

/-- The number of places of the first table that is larger than a number, in as many steps as
allowed. -/
def sizeAbove (bound : Nat) : (steps size : Nat) → Nat
  | 0, size => size
  | steps + 1, size => if bound < size then size else sizeAbove bound steps (2 * size)

/-- The number of items beyond which tables grow more slowly. -/
def large : Nat := 50000

/-- Whether a table of some size is too small for a number of items. -/
def isFull (used size : Nat) : Bool := (size - 1) * 3 ≤ used * 5

/-- The size of the table that takes the place of one that is full. -/
def largerSize (used : Nat) : Nat :=
  let bound := if large < used then used * 2 else used * 4
  sizeAbove bound bound smallest

/-- Items with hashes in a new table. -/
def table {α : Type} (size : Nat) (items : List (Nat × α)) : Array (Option (Nat × α)) :=
  items.foldl (fun table (hash, item) => put table hash item) (Array.replicate size none)

/-- The items of a table in the order of their places. -/
def itemsOf {α : Type} (table : Array (Option (Nat × α))) : List (Nat × α) :=
  table.toList.filterMap id

/-- The items with hashes that come one by one, in the order of their places. -/
def ofHashes {α : Type} (items : List (Nat × α)) : List (Nat × α) :=
  let (_, table) := items.foldl (fun (used, places) (hash, item) =>
    let used := used + 1
    let places := put places hash item
    (used, if isFull used places.size then table (largerSize used) (itemsOf places) else places))
    (0, Array.replicate smallest none)
  itemsOf table

/-- The size of the table for a number of items that come one by one. -/
def sizeFor (count : Nat) : Nat :=
  (List.range count).foldl (fun size before =>
    if isFull (before + 1) size then largerSize (before + 1) else size) smallest

/-- The items with hashes of a set, in the order of their places in a copy of it.  All of them are
known from the beginning. -/
def copyOfHashes {α : Type} (items : List (Nat × α)) : List (Nat × α) :=
  let count := items.length
  let size :=
    if isFull count smallest then sizeAbove (2 * count) (2 * count) smallest else smallest
  if size = sizeFor count then items else itemsOf (table size items)

/-! ## Values -/

/-- The number of different hashes. -/
def hashes : Int := 0x10000000000000000

/-- The hash of a value, if it is the same in every run. -/
def hash? (value : Value) : Option Nat :=
  value.number?.map fun number => (number.hash % hashes).toNat

/-- The items of a set in the order that an arrangement of hashes gives. -/
def arrangedBy (arrangement : List (Nat × Value) → List (Nat × Value)) (items : List Value) :
    List Value :=
  match items.mapM fun item => (hash? item).map fun hash => (hash, item) with
  | some hashed => (arrangement hashed).map Prod.snd
  | none => items

/-- The items of a set that come one by one. -/
def arranged (items : List Value) : List Value := arrangedBy ofHashes items

/-- The items of a copy of a set. -/
def copied (items : List Value) : List Value := arrangedBy copyOfHashes items

/-- The items of a set that are not among others.  They come one by one, unless there are so few
others that they are taken away from a copy. -/
def without (items others : List Value) : List Value :=
  let isLeft (item : Value) : Bool := !item.isAmong others
  if others.length < items.length / 4 then (copied items).filter isLeft
  else arranged (items.filter isLeft)

end TinyC.Script.Arrangement
