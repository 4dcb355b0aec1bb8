import TinyC.Script.Value

/-!
# Comparing values

Values of different kinds are never equal, except numbers.  Which of two values
is the less is known for numbers, texts, rows of bytes, and for lists and tuples
by their first items that differ.  Of two sets, one that is part of the other is
the less.
-/

namespace TinyC.Script.Value

mutual

/-- Whether two values are equal. -/
def equal : Value → Value → Bool
  | .nothing, .nothing => true
  | .marker first, .marker second => first = second
  | .text first, .text second => first.length = second.length && first.points = second.points
  | .bytes _ first, .bytes _ second => first = second
  | .list first, .list second => equalItems first second
  | .tuple first, .tuple second => equalItems first second
  | .set _ first, .set _ second => first.length = second.length && isWithin first second
  | .dictionary first, .dictionary second =>
      first.length = second.length && agrees first second
  | .range start stop step, .range start' stop' step' =>
      let length := rangeLength start stop step
      length = rangeLength start' stop' step' &&
        (length = 0 || (start = start' && (length = 1 || step = step')))
  | .slice start stop step, .slice start' stop' step' =>
      start.equal start' && stop.equal stop' && step.equal step'
  | .function first, .function second => first.name = second.name
  | .provided first, .provided second => first = second
  | .builtin first, .builtin second => first = second
  | .kind first, .kind second => first = second
  | .quitter first, .quitter second => first = second
  | .notice _ first, .notice _ second => first = second
  | .library first, .library second => first = second
  | .iterator _ first, .iterator _ second => first = second
  | first, second =>
      match first.number?, second.number? with
      | some first, some second => first.compare? second == some .eq
      | _, _ => false

/-- Whether two lists have equal items. -/
def equalItems : List Value → List Value → Bool
  | [], [] => true
  | first :: rest, second :: others => first.equal second && equalItems rest others
  | _, _ => false

/-- Whether all items of the first list are among those of the second. -/
def isWithin : List Value → List Value → Bool
  | [], _ => true
  | first :: rest, items => items.any (fun item => first.equal item) && isWithin rest items

/-- Whether all entries of the first list are among those of the second. -/
def agrees : List (Value × Value) → List (Value × Value) → Bool
  | [], _ => true
  | (key, value) :: rest, entries =>
      entries.any (fun (key', value') => key.equal key' && value.equal value') &&
        agrees rest entries

end

/-- Whether a row comes before another in the order of words. -/
def isBefore {α : Type} (less : α → α → Bool) : List α → List α → Bool
  | _, [] => false
  | [], _ :: _ => true
  | first :: rest, second :: others =>
      less first second || (!less second first && isBefore less rest others)

mutual

/-- Whether a value is less than another. -/
def isLess : Value → Value → Except Stop Bool
  | .text first, .text second =>
      .ok (isBefore (fun point other => decide (point < other)) first.points second.points)
  | .bytes _ first, .bytes _ second =>
      .ok (isBefore (fun byte other => decide (byte < other)) first second)
  | .list first, .list second => isLessItems first second
  | .tuple first, .tuple second => isLessItems first second
  | .set _ first, .set _ second => .ok (first.length < second.length && isWithin first second)
  | first, second =>
      match first.number?, second.number? with
      | some first, some second => .ok (first.compare? second == some .lt)
      | _, _ => .error .typeError

/-- Whether the first item that two lists do not share is less in the first. -/
def isLessItems : List Value → List Value → Except Stop Bool
  | _, [] => .ok false
  | [], _ :: _ => .ok true
  | first :: rest, second :: others =>
      if first.equal second then isLessItems rest others else first.isLess second

end

/-- Whether a list has an item equal to a value. -/
def isAmong (value : Value) (items : List Value) : Bool := items.any fun item => item.equal value

/-- The items of a list without those equal to an earlier one. -/
def distinct (items : List Value) : List Value :=
  (items.foldl (fun kept item => if item.isAmong kept then kept else item :: kept) []).reverse

/-- The entries of a dictionary with one more, which takes the place of one with the same key. -/
def insert (key value : Value) : List (Value × Value) → List (Value × Value)
  | [] => [(key, value)]
  | (key', value') :: rest =>
      if key.equal key' then (key', value) :: rest else (key', value') :: insert key value rest

mutual

/-- Whether a value can be in a set, or be the key of an entry. -/
def isHashable : Value → Bool
  | .list _ | .dictionary _ | .slice _ _ _ => false
  | .set isFrozen _ => isFrozen
  | .bytes isMutable _ => !isMutable
  | .tuple items => allHashable items
  | _ => true

/-- Whether all values of a list can be in a set. -/
def allHashable : List Value → Bool
  | [] => true
  | item :: rest => item.isHashable && allHashable rest

end

end TinyC.Script.Value
