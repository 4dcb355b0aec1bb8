import TinyC.Span

/-!
# Joining windows

Items with a window each are put in the order in which their windows start, and
items whose windows overlap or touch are put into one group.  The span of a
group reaches from the start of its first window to the largest end.
-/

namespace TinyC

/-- Items whose windows form one stretch. -/
structure Group (α : Type) where
  items : List α
  span : Span

namespace Group

variable {α : Type}

/-- Items in the order in which their windows start; those that start together keep their order. -/
def inOrder (window : α → Span) (items : List α) : List α :=
  items.mergeSort fun first second => decide ((window first).start ≤ (window second).start)

/-- Adds ordered items to a group that is still open, and opens a new group at each gap. -/
def join (window : α → Span) (opened : Group α) : List α → List (Group α)
  | [] => if opened.items.isEmpty then [] else [opened]
  | item :: rest =>
      let range := window item
      let stop := max opened.span.stop range.stop
      if opened.span.stop < range.start then
        let joined := join window ⟨[item], ⟨range.start, stop⟩⟩ rest
        if opened.items.isEmpty then joined else opened :: joined
      else join window ⟨opened.items ++ [item], ⟨opened.span.start, stop⟩⟩ rest

/-- The groups of items, in the order of their windows. -/
def ofItems (window : α → Span) (items : List α) : List (Group α) :=
  join window ⟨[], .emptyAt 0⟩ (inOrder window items)

/-- Joining keeps every item, in order. -/
theorem items_join (window : α → Span) (opened : Group α) (items : List α) :
    (join window opened items).flatMap Group.items = opened.items ++ items := by
  induction items generalizing opened with
  | nil => by_cases hempty : opened.items = [] <;> simp [join, hempty]
  | cons item rest ih =>
      by_cases hgap : opened.span.stop < (window item).start <;>
        by_cases hempty : opened.items = [] <;> simp [join, hgap, hempty, ih]

end Group

end TinyC
