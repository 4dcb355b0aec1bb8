/-!
# Reading positions

A cursor is a position in a text, known by the characters that follow it.  It
only moves forward: what it passes together with what is left is the text, as
`eat_suffix`, `skipUntil_suffix` and `upTo_append` say.
-/

namespace TinyC

/-- A position in a text, given by what is left to read. -/
structure Cursor where
  rest : List Char

namespace Cursor

/-- The position before the first character. -/
def ofText (text : String) : Cursor := ⟨text.toList⟩

/-- The next character, which stays unread. -/
def peek? (cursor : Cursor) : Option Char := cursor.rest.head?

/-- The next character and the position after it. -/
def next? (cursor : Cursor) : Option Char × Cursor :=
  match cursor.rest with
  | [] => (none, cursor)
  | c :: rest => (some c, ⟨rest⟩)

/-- Passes the next character if it is the given one. -/
def eat (cursor : Cursor) (c : Char) : Bool × Cursor :=
  if cursor.peek? = some c then (true, ⟨cursor.rest.tail⟩) else (false, cursor)

/-- The position of the next character that stops the search, or the end. -/
def skipUntil (cursor : Cursor) (stop : Char → Bool) : Cursor :=
  ⟨cursor.rest.dropWhile fun c => !stop c⟩

/-- Whether nothing is left to read. -/
def atEnd (cursor : Cursor) : Bool := cursor.rest.isEmpty

/-- The text from a position up to a later one. -/
def upTo (start stop : Cursor) : List Char :=
  start.rest.take (start.rest.length - stop.rest.length)

/-- Passing a character removes exactly that character. -/
theorem eat_eq_true_iff {cursor : Cursor} {c : Char} :
    (cursor.eat c).1 = true ↔ cursor.rest = c :: (cursor.eat c).2.rest := by
  obtain ⟨rest⟩ := cursor
  cases rest with
  | nil => simp [eat, peek?]
  | cons first rest =>
      by_cases hfirst : first = c <;> simp [eat, peek?, hfirst]

theorem eat_suffix (cursor : Cursor) (c : Char) : (cursor.eat c).2.rest <:+ cursor.rest := by
  rw [eat]
  split
  · exact List.tail_suffix _
  · exact List.suffix_refl _

/-- A character is passed by a search if it does not stop it. -/
theorem skipUntil_cons (c : Char) (rest : List Char) (stop : Char → Bool) :
    skipUntil ⟨c :: rest⟩ stop = if stop c then ⟨c :: rest⟩ else skipUntil ⟨rest⟩ stop := by
  cases hstop : stop c <;> simp [skipUntil, hstop]

theorem skipUntil_suffix (cursor : Cursor) (stop : Char → Bool) :
    (cursor.skipUntil stop).rest <:+ cursor.rest :=
  List.dropWhile_suffix _

/-- A search ends after a run of characters exactly if none of them stops it, and the next one
does. -/
theorem skipUntil_eq_iff {run rest : List Char} {stop : Char → Bool} :
    skipUntil ⟨run ++ rest⟩ stop = ⟨rest⟩ ↔
      (∀ c ∈ run, stop c = false) ∧ ∀ c ∈ rest.head?, stop c = true := by
  induction run with
  | nil =>
      cases rest with
      | nil => simp [skipUntil]
      | cons c rest =>
          have hshorter := (skipUntil_suffix ⟨rest⟩ stop).length_le
          rw [List.nil_append, skipUntil_cons]
          cases hstop : stop c with
          | true => simp [hstop]
          | false =>
              have hne : skipUntil ⟨rest⟩ stop ≠ ⟨c :: rest⟩ := by
                intro heq
                simp only [heq, List.length_cons] at hshorter
                omega
              simpa [hstop] using hne
  | cons c run ih =>
      have hlonger : c :: (run ++ rest) ≠ rest := by
        intro heq
        have hlength := congrArg List.length heq
        simp only [List.length_cons, List.length_append] at hlength
        omega
      rw [List.cons_append, skipUntil_cons]
      cases hstop : stop c <;> simp [hstop, hlonger, ih]

theorem upTo_append (run rest : List Char) : upTo ⟨run ++ rest⟩ ⟨rest⟩ = run := by
  simp [upTo]

end Cursor

end TinyC
