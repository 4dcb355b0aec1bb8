import TinyC.Proofs.Grammar.CursorReading

/-!
# Only the tokens up to the first end of input

What stands behind the first end of input does not matter, and neither does
whether there is an end of input at all: without one, the words are read the
same, and an error at the end is found directly after the last word.

## Strategy

Nothing of this is plain from a cursor that goes over the whole list of tokens,
looks ahead in it, and has an end of input added behind whatever the last token
is.  But reading with the cursor is reading the words before the first end of
input (`parse_eq`).  What is left is the token of an error: it is the next word,
or the first end of input where no word is left.
-/

namespace TinyC

/-- The error in words alone that comes of one in the words and an end of input. -/
def SyntaxError.withoutEnd (words : List Token) (last : Token) (error : SyntaxError) :
    SyntaxError where
  expected := error.expected
  found :=
    if error.found = last then
      .endAt ((words.getLast?.map fun word => word.span.stop).getD 0)
    else error.found

namespace Grammar

open Syntax

/-! ## Reading up to the first end of input -/

variable {words after : List Token} {last : Token}

/-- An error at the end of input is one at the end of the last word, and a word that does not fit
stays where it is. -/
theorem withoutEnd_failure {limits : Limits} {failure : Failure}
    (hread : Syntax.functions limits words = .error failure)
    (hwords : ∀ word ∈ words, word.kind ≠ .endOfInput) (hlast : last.kind = .endOfInput) :
    SyntaxError.withoutEnd words last ⟨failure.expected, failure.rest.head?.getD last⟩ =
      ⟨failure.expected, failure.rest.head?.getD (Syntax.stop words)⟩ := by
  obtain ⟨taken, hsplit, -⟩ := exists_isViable_of_failure hread
  rw [SyntaxError.withoutEnd, stop_of_ne_endOfInput hwords]
  cases hrest : failure.rest with
  | nil => rw [List.head?_nil, Option.getD_none, Option.getD_none, if_pos rfl]
  | cons word rest =>
      have hword : word ∈ words := by simp [hsplit, hrest]
      have hne : word ≠ last := fun heq => hwords word hword (heq ▸ hlast)
      rw [List.head?_cons, Option.getD_some, Option.getD_some, if_neg hne]

theorem ofTokens_append_cons (hwords : ∀ word ∈ words, word.kind ≠ .endOfInput)
    (hlast : last.kind = .endOfInput) :
    Program.ofTokens (words ++ last :: after) = Program.ofTokens (words ++ [last]) := by
  rw [Program.ofTokens, Program.ofTokens, words_append hwords hlast, words_append hwords hlast,
    stop_append_cons hwords hlast, stop_append_cons hwords hlast]

theorem ofTokens_of_ne_endOfInput (hwords : ∀ word ∈ words, word.kind ≠ .endOfInput)
    (hlast : last.kind = .endOfInput) :
    Program.ofTokens words =
      (Program.ofTokens (words ++ [last])).mapError (SyntaxError.withoutEnd words last) := by
  rw [Program.ofTokens, Program.ofTokens, words_append hwords hlast, words_of_ne_endOfInput hwords,
    stop_append_cons hwords hlast]
  cases hread : Syntax.functions .standard words with
  | ok functions => rfl
  | error failure => exact congrArg Except.error (withoutEnd_failure hread hwords hlast).symm

/-- Reading with a cursor comes to an end on all tokens, with a program or an error.  What it has
read is the same for all tokens behind the first end of input; and without an end of input, it is
the same but for the token of an error at the end, which is then directly after the last word. -/
theorem parse_up_to_end :
    (∀ tokens, Cursor.parse tokens = some (Program.ofTokens tokens)) ∧
      ∀ words last after, (∀ word ∈ words, word.kind ≠ .endOfInput) → last.kind = .endOfInput →
        Cursor.parse (words ++ last :: after) = Cursor.parse (words ++ [last]) ∧
          Cursor.parse words =
            (Cursor.parse (words ++ [last])).map
              (Except.mapError (SyntaxError.withoutEnd words last)) := by
  refine ⟨Cursor.parse_eq, fun words last after hwords hlast => ⟨?_, ?_⟩⟩
  · rw [Cursor.parse_eq, Cursor.parse_eq, ofTokens_append_cons hwords hlast]
  · rw [Cursor.parse_eq, Cursor.parse_eq, ofTokens_of_ne_endOfInput hwords hlast]
    rfl

/-- A function that ends at once: `int` and two spaces before the end of input, or `int` alone. -/
theorem parse_up_to_end_unnamed :
    Cursor.parse [⟨.intKeyword, "int", 0⟩, .endAt 5, ⟨.identifier, "main", 6⟩, .endAt 10] =
        some (.error ⟨.functionName, .endAt 5⟩) ∧
      Cursor.parse [⟨.intKeyword, "int", 0⟩] = some (.error ⟨.functionName, .endAt 3⟩) := by
  obtain ⟨hparse, hend⟩ := parse_up_to_end
  obtain ⟨hafter, hwithout⟩ := hend [⟨.intKeyword, "int", 0⟩] (.endAt 5)
    [⟨.identifier, "main", 6⟩, .endAt 10] (by decide) rfl
  have hread : Cursor.parse [⟨.intKeyword, "int", 0⟩, .endAt 5] =
      some (.error ⟨.functionName, .endAt 5⟩) := by
    have hwords : Syntax.words [⟨.intKeyword, "int", 0⟩, .endAt 5] = [⟨.intKeyword, "int", 0⟩] :=
      rfl
    rw [hparse, Program.ofTokens, hwords, functions_cons]
    rfl
  refine ⟨hafter.trans hread, ?_⟩
  rw [hwithout, List.singleton_append, hread]
  rfl

end Grammar

end TinyC
