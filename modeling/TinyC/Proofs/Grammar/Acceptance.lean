import TinyC.Proofs.Grammar.Completeness
import TinyC.Proofs.Grammar.Soundness

/-!
# Which tokens are a program

`Program.ofTokens` accepts a list of tokens with a program exactly when the words
before the first end of input follow the grammar with this program, no
expression of it is higher than 256, and none stands in more than 255 open
parentheses.  The tokens from the first end of input on do not matter.
-/

namespace TinyC.Grammar

open Syntax

/-! ## Words and the end of input -/

/-- The words are what stands before the first end of input. -/
theorem words_append {before after : List Token} {last : Token}
    (hbefore : ∀ word ∈ before, word.kind ≠ .endOfInput) (hlast : last.kind = .endOfInput) :
    Syntax.words (before ++ last :: after) = before := by
  rw [Syntax.words, List.takeWhile_append_of_pos (by simpa using hbefore)]
  simp [hlast]

theorem words_of_ne_endOfInput {tokens : List Token}
    (htokens : ∀ word ∈ tokens, word.kind ≠ .endOfInput) : Syntax.words tokens = tokens := by
  induction tokens with
  | nil => rfl
  | cons first rest ih =>
      obtain ⟨hfirst, hrest⟩ := List.forall_mem_cons.1 htokens
      rw [Syntax.words, List.takeWhile_cons_of_pos (by simpa using hfirst)]
      exact congrArg (first :: ·) (ih hrest)

theorem ne_endOfInput_of_mem_words {tokens : List Token} {word : Token}
    (hword : word ∈ Syntax.words tokens) : word.kind ≠ .endOfInput := by
  have hall := List.all_eq_true.1 List.all_takeWhile word hword
  simpa using hall

theorem find?_of_ne_endOfInput {tokens : List Token}
    (htokens : ∀ word ∈ tokens, word.kind ≠ .endOfInput) :
    (tokens.find? fun token => token.kind = .endOfInput) = none :=
  List.find?_eq_none.2 (by simpa using htokens)

/-- The first end of input is the one that comes after words. -/
theorem stop_append_cons {before after : List Token} {last : Token}
    (hbefore : ∀ word ∈ before, word.kind ≠ .endOfInput) (hlast : last.kind = .endOfInput) :
    Syntax.stop (before ++ last :: after) = last := by
  have hfirst : (last :: after).find? (fun token => token.kind = .endOfInput) = some last :=
    List.find?_cons_of_pos (decide_eq_true hlast)
  rw [Syntax.stop, List.find?_append, find?_of_ne_endOfInput hbefore, hfirst]
  rfl

/-- Without an end of input, reading stops directly after the last token. -/
theorem stop_of_ne_endOfInput {tokens : List Token}
    (htokens : ∀ word ∈ tokens, word.kind ≠ .endOfInput) :
    Syntax.stop tokens = .endAt ((tokens.getLast?.map fun token => token.span.stop).getD 0) := by
  rw [Syntax.stop, find?_of_ne_endOfInput htokens]
  rfl

/-! ## Within the limits -/

variable {limits : Limits} {words : List Token}

/-- Functions are read exactly if the words form them within the limits. -/
theorem functions_eq_ok_iff {functions : List Function} :
    Syntax.functions limits words = .ok functions ↔
      FormsWithin limits (List.flatMap Function.expressions) (FormsEach FormsFunction) functions
        words := by
  constructor
  · intro hread
    have hmeets := meets_functionsToEnd limits words
    rw [functionsToEnd, hread] at hmeets
    obtain ⟨taken, hwords, hwithin⟩ := hmeets
    rwa [hwords, List.append_nil]
  · rintro ⟨hheight, nesting, hlt, hforms⟩
    exact hforms.functions hheight hlt

theorem ofTokens_eq_ok {tokens : List Token} {program : Program} :
    Program.ofTokens tokens = .ok program ↔
      Syntax.functions .standard (Syntax.words tokens) = .ok program.functions := by
  rw [Program.ofTokens]
  cases Syntax.functions .standard (Syntax.words tokens) with
  | error failure => simp
  | ok functions =>
      obtain ⟨expected⟩ := program
      simp

/-- Tokens are accepted exactly if their words form the program within the limits. -/
theorem ofTokens_eq_ok_iff (tokens : List Token) (program : Program) :
    Program.ofTokens tokens = .ok program ↔
      ∃ nesting ≤ 255, FormsProgram program (Syntax.words tokens) nesting ∧
        ∀ expression ∈ program.expressions, expression.height ≤ 256 := by
  rw [ofTokens_eq_ok, functions_eq_ok_iff]
  constructor
  · rintro ⟨hheight, nesting, hlt, hforms⟩
    exact ⟨nesting, Nat.le_of_lt_succ hlt, hforms, hheight⟩
  · rintro ⟨nesting, hle, hforms, hheight⟩
    exact ⟨hheight, nesting, Nat.lt_succ_of_le hle, hforms⟩

end TinyC.Grammar
