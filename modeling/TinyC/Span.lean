/-!
# Spans

A span is a half-open range of positions.  Its bounds may come in either order;
a span whose end is not beyond its start is empty.
-/

namespace TinyC

/-- The positions from `start` up to and not including `stop`. -/
structure Span where
  start : Nat
  stop : Nat
  deriving DecidableEq, Repr

namespace Span

/-- The empty span at a position. -/
def emptyAt (position : Nat) : Span := ⟨position, position⟩

/-- From the smaller start to the larger end. -/
def union (first second : Span) : Span :=
  ⟨min first.start second.start, max first.stop second.stop⟩

/-- Whether a position lies in the span. -/
def contains (span : Span) (position : Nat) : Bool :=
  span.start ≤ position && position < span.stop

/-- The number of positions in the span. -/
def length (span : Span) : Nat := span.stop - span.start

/-- Whether no position lies in the span. -/
def isEmpty (span : Span) : Bool := span.length == 0

theorem contains_iff {span : Span} {position : Nat} :
    span.contains position = true ↔ span.start ≤ position ∧ position < span.stop := by
  simp [contains]

theorem isEmpty_iff {span : Span} : span.isEmpty = true ↔ ∀ n, span.contains n = false := by
  constructor
  · intro hempty n
    simp only [isEmpty, length, beq_iff_eq] at hempty
    simp only [contains, Bool.and_eq_false_iff, decide_eq_false_iff_not]
    omega
  · intro hnone
    have hstart := hnone span.start
    simp only [contains, Bool.and_eq_false_iff, decide_eq_false_iff_not] at hstart
    simp only [isEmpty, length, beq_iff_eq]
    omega

end Span

end TinyC
