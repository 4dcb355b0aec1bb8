import TinyC.Proofs.Grammar.Acceptance
import TinyC.Proofs.Grammar.Relocation
import TinyC.Proofs.Lexical.Composition
import TinyC.Proofs.SourceText.Names

/-!
# Texts that are joined

The text of a program, a line feed and a second text: what this is depends on
the second text alone.  A program there makes a program with the functions of
both, and an error there is the same error, later by the length of what stands
before it.

A text that is read as a program leaves nothing open at its end.  Its last token
is a brace, so no literal goes on into the second text; a comment or directive
ends with the line feed; and functions are read one after another, without
anything that is kept from those before.
-/

namespace TinyC

open Syntax

/-! ## After a program -/

namespace Grammar

/-- The last word of a function is a brace. -/
theorem FormsFunction.getLast? {function : Function} {words : List Token} {nesting : Nat}
    (hforms : FormsFunction function words nesting) :
    ∃ last ∈ words.getLast?, last.kind = .rightBrace := by
  obtain ⟨_, _, _, _, _, _, hstop⟩ := hforms
  exact ⟨_, by simp [List.getLast?_cons, List.getLast?_append], hstop⟩

/-- The last word of functions is a brace, if there is any. -/
theorem FormsEach.kind_getLast? {functions : List Function} {words : List Token} {nesting : Nat}
    (hforms : FormsEach FormsFunction functions words nesting) :
    ∀ last ∈ words.getLast?, last.kind = .rightBrace := by
  induction hforms with
  | nil => simp
  | @cons function functions before after m n hfirst _ ih =>
      intro last hlast
      rw [List.getLast?_append] at hlast
      cases hafter : after.getLast? with
      | some found =>
          rw [hafter] at hlast
          exact ih last (hafter.trans hlast)
      | none =>
          rw [hafter] at hlast
          obtain ⟨found, hfound, hkind⟩ := hfirst.getLast?
          obtain rfl := Option.some.inj (hfound.symm.trans hlast)
          exact hkind

end Grammar

/-- The words of functions do not matter for where the input ends. -/
theorem stop_append {before tokens : List Token}
    (hbefore : ∀ word ∈ before, word.kind ≠ .endOfInput)
    (hend : ∃ token ∈ tokens, token.kind = .endOfInput) :
    Syntax.stop (before ++ tokens) = Syntax.stop tokens := by
  obtain ⟨last, hlast⟩ := exists_find?_endOfInput hend
  rw [Syntax.stop, Syntax.stop, List.find?_append, Grammar.find?_of_ne_endOfInput hbefore, hlast]
  rfl

/-- Tokens after the words of a program form what they form by themselves. -/
theorem ofTokens_append {words tokens : List Token} {functions : List Function}
    (hread : Syntax.functions .standard words = .ok functions)
    (hwords : ∀ word ∈ words, word.kind ≠ .endOfInput)
    (hend : ∃ token ∈ tokens, token.kind = .endOfInput) :
    Program.ofTokens (words ++ tokens) =
      (Program.ofTokens tokens).map fun other => ⟨functions ++ other.functions⟩ := by
  obtain ⟨hheight, nesting, hlt, hforms⟩ := Grammar.functions_eq_ok_iff.1 hread
  have hsplit : Syntax.words (words ++ tokens) = words ++ Syntax.words tokens :=
    List.takeWhile_append_of_pos (by simpa using hwords)
  rw [Program.ofTokens, Program.ofTokens, hsplit, hforms.functions_append hheight hlt,
    stop_append hwords hend]
  cases Syntax.functions .standard (Syntax.words tokens) <;> rfl

/-! ## Joining -/

/-- The tokens of a text that is read as a program, before the end of input.  They are also found
before a line feed and another text. -/
theorem exists_splits_newLine {source : String} {program : Program}
    (hread : Program.ofText source = .ok program) (rest : List Char) :
    ∃ pieces tokens, Lexical.IsSplitting (source.toList ++ '\n' :: rest) pieces tokens rest ∧
      Scan.covered pieces = source.toList ++ ['\n'] ∧
      Syntax.functions .standard tokens = .ok program.functions := by
  obtain ⟨all, hlex, hprogram⟩ := exists_tokens_of_ofText hread
  obtain ⟨pieces, tokens, hsplitting, rfl⟩ := Lexical.exists_isSplitting hlex
  have hcovered : Scan.covered pieces = source.toList := by
    rw [← hsplitting.covers, List.append_nil]
  have hfunctions := Grammar.ofTokens_eq_ok.1 hprogram
  rw [Grammar.words_append hsplitting.splits.ne_endOfInput rfl] at hfunctions
  obtain ⟨-, nesting, -, hforms⟩ := Grammar.functions_eq_ok_iff.1 hfunctions
  -- No literal is open at the end, because the last token is a brace.
  have hbefore : Lexical.Splits 0 pieces tokens ('\n' :: rest) :=
    hsplitting.splits.replace .newLine fun last hlast => by
      simp [hforms.kind_getLast? last hlast]
  have hfeed : Lexical.Splits (0 + Text.byteLength (Scan.covered pieces)) [.trivia ['\n']] []
      rest := .trivia (.blank (by simp)) .nil
  refine ⟨pieces ++ [.trivia ['\n']], tokens, ⟨?_, ?_⟩, ?_, hfunctions⟩
  · rw [Lexical.covered_append, hcovered, List.append_assoc]
    rfl
  · simpa using Lexical.Splits.append hbefore hfeed
  · rw [Lexical.covered_append, hcovered]
    rfl

/-- A program and a text joined by a line feed are the functions of the program and those of the
text, or the error of the text, later by the length of the program's text and one. -/
theorem ofText_join {first : String} {program : Program}
    (hread : Program.ofText first = .ok program) (second : String) :
    Program.ofText (first ++ "\n" ++ second) =
      match Program.ofText second with
      | .ok other => .ok ⟨program.functions ++ other.functions⟩
      | .error error =>
          .error (error.relocate (· + (Text.byteLength first.toList + 1))) := by
  obtain ⟨pieces, tokens, hsplitting, hcovered, hfunctions⟩ :=
    exists_splits_newLine hread second.toList
  have hsource : first ++ "\n" ++ second =
      String.ofList (Scan.covered pieces ++ second.toList) := by
    rw [hsplitting.covers, ← String.toList_inj, String.toList_ofList, String.toList_append,
      String.toList_append, List.append_assoc]
    rfl
  have hlength : Text.byteLength (Scan.covered pieces) = Text.byteLength first.toList + 1 := by
    rw [hcovered, Text.byteLength_append]
    rfl
  have hlex := hsplitting.splits.lex_append
  rw [← hsource, String.ofList_toList, hlength] at hlex
  rw [Program.ofText, Program.ofText]
  cases hsecond : Token.lex second with
  | error error =>
      rw [hlex, hsecond]
      rfl
  | ok found =>
      have hjoined : Token.lex (first ++ "\n" ++ second) =
          .ok (tokens ++ relocate (· + (Text.byteLength first.toList + 1)) found) := by
        rw [hlex, hsecond]
        rfl
      have hend := Lexical.exists_endOfInput hsecond
      have hafter : Program.ofTokens
            (tokens ++ relocate (· + (Text.byteLength first.toList + 1)) found) =
          ((Program.ofTokens found).mapError
            (SyntaxError.relocate (· + (Text.byteLength first.toList + 1)))).map
              fun other => ⟨program.functions ++ other.functions⟩ := by
        rw [← ofTokens_relocate hend]
        exact ofTokens_append hfunctions hsplitting.splits.ne_endOfInput
          (exists_endOfInput_relocate hend)
      rw [hjoined]
      dsimp only
      rw [hafter]
      cases Program.ofTokens found <;> rfl

/-- A text that ends with a comment. -/
def commented : String := "int f() \x7b return 1; \x7d // f"

/-- The comment ends before the second function. -/
theorem ofText_join_commented :
    Program.ofText commented = .ok ⟨[⟨"f", [.returns (some (.number 1))]⟩]⟩ ∧
      Program.ofText (commented ++ "\n" ++ "int g() \x7b return f(); \x7d") =
        .ok ⟨[⟨"f", [.returns (some (.number 1))]⟩, ⟨"g", [.returns (some (.call "f" []))]⟩]⟩ := by
  have hfirst : Program.ofText commented = .ok ⟨[⟨"f", [.returns (some (.number 1))]⟩]⟩ :=
    ofText_eq_ok_of_toOption (by decide +kernel)
  have hsecond : Program.ofText "int g() \x7b return f(); \x7d" =
      .ok ⟨[⟨"g", [.returns (some (.call "f" []))]⟩]⟩ :=
    ofText_eq_ok_of_toOption (by decide +kernel)
  refine ⟨hfirst, (ofText_join hfirst _).trans ?_⟩
  rw [hsecond]
  rfl

end TinyC
