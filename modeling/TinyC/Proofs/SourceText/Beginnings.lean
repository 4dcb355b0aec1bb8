import TinyC.Proofs.Grammar.ViablePrefix
import TinyC.Proofs.Lexical.Composition
import TinyC.Proofs.SourceText.Names

/-!
# Errors are decided by the text up to them

What comes after an error has no part in it.  A text with an unexpected
character has the same error however it goes on after that character, and what
stands before the character can be lexed.  Tokens with a syntax error have the
same error however they go on after the token that it names, also where this
token is the end of input and where the error is about a limit.

## Strategy

The pieces before an unexpected character are pieces before it whatever follows
it, and also before the end of the text, because no piece goes on with such a
character.  A reader looks at no word after the one at which it fails
(`persists_functionsToEnd`), and with the same limits this is true of the
failures at a limit as well.
-/

namespace TinyC

namespace Lexical

/-- Before an unexpected character stand pieces, and no rule applies from there on. -/
theorem exists_splits_of_error {source : String} {error : LexError}
    (hlex : Token.lex source = .error error) :
    ∃ pieces found rest, Scan.covered pieces ++ error.character :: rest = source.toList ∧
      Text.byteLength (Scan.covered pieces) = error.offset ∧
      Splits 0 pieces found (error.character :: rest) ∧
      Piece.first? (error.character :: rest) = none := by
  have hsplitting := isSplitting_ofText source.toList
  have hnone := Scan.first?_rest source.toList
  rw [Token.lex] at hlex
  cases hrest : (Scan.ofText source.toList).rest with
  | nil => simp [hrest] at hlex
  | cons c rest =>
      rw [hrest] at hsplitting hnone
      simp only [hrest] at hlex
      obtain rfl := Except.error.inj hlex
      exact ⟨_, _, rest, hsplitting.covers, rfl, hsplitting.splits, hnone⟩

/-- A text that begins with an unexpected character cannot be lexed, whatever follows. -/
theorem lex_of_first?_none {c : Char} {rest : List Char}
    (hnone : Piece.first? (c :: rest) = none) (other : List Char) :
    Token.lex (String.ofList (c :: other)) = .error ⟨c, 0⟩ := by
  have hother : Piece.first? (c :: other) = none :=
    first?_eq_none_iff.2 (first?_eq_none_iff.1 hnone)
  rw [Token.lex, String.toList_ofList, ofText_of_first?_none hother]
  rfl

/-- A text up to an unexpected character has its error however it goes on, and up to before the
character it can be lexed. -/
theorem lex_of_error {source : String} {error : LexError} (hlex : Token.lex source = .error error) :
    ∃ before after, source.toList = before ++ error.character :: after ∧
      Text.byteLength before = error.offset ∧
      (∃ found, Token.lex (String.ofList before) = .ok found) ∧
      ∀ other, Token.lex (String.ofList (before ++ error.character :: other)) = .error error := by
  obtain ⟨pieces, found, rest, hcovers, hoffset, hsplits, hnone⟩ := exists_splits_of_error hlex
  refine ⟨Scan.covered pieces, rest, hcovers.symm, hoffset, ?_, fun other => ?_⟩
  · have hfeed : error.character ≠ '\n' := by
      intro hfeed
      exact (first?_eq_none_iff.1 hnone).1 (by rw [hfeed]; decide)
    have hnothing : MayReplace (fun _ => True) (error.character :: rest) [] := .nil hfeed
    have hend : Splits 0 pieces found [] := hsplits.replace hnothing fun _ _ => trivial
    exact ⟨_, lex_of_isSplitting ⟨by rw [String.toList_ofList, List.append_nil], hend⟩⟩
  · have hsame : MayReplace (fun _ => True) (error.character :: rest) (error.character :: other) :=
      .of_head? rfl
    have hother : Splits 0 pieces found (error.character :: other) :=
      hsplits.replace hsame fun _ _ => trivial
    rw [hother.lex_append, lex_of_first?_none hnone]
    have herror : LexError.relocate (· + Text.byteLength (Scan.covered pieces))
        ⟨error.character, 0⟩ = error := by
      rw [hoffset, LexError.relocate, Nat.zero_add]
    exact congrArg Except.error herror

end Lexical

namespace Grammar

open Syntax

/-- The same failure comes of all words that begin with those before it and go on with the same
one. -/
theorem exists_functions_of_failure {limits : Limits} {words : List Token} {failure : Failure}
    (hread : Syntax.functions limits words = .error failure) :
    ∃ taken, words = taken ++ failure.rest ∧ ∀ other, other.head? = failure.rest.head? →
      Syntax.functions limits (taken ++ other) = .error ⟨failure.expected, other⟩ := by
  obtain ⟨taken, hwords, hother⟩ := exists_functions_of_sameNext hread
  exact ⟨taken, hwords, fun other hhead => hother other (.of_head? hhead)⟩

/-- Where tokens begin with given words and one more token, the words among them go on after the
given ones with that token, or end before it. -/
theorem exists_words_eq {tokens taken : List Token} {found : Token}
    (htaken : ∀ word ∈ taken, word.kind ≠ .endOfInput)
    (htokens : taken ++ [found] <+: withEnd tokens) :
    ∃ rest, Syntax.words tokens = taken ++ rest ∧
      rest.head? = (if found.kind = .endOfInput then none else some found) ∧
      rest.head?.getD (Syntax.stop tokens) = found := by
  obtain ⟨after, hend⟩ := exists_withEnd_eq tokens
  obtain ⟨others, hothers⟩ := htokens
  rw [hend, List.append_assoc, List.singleton_append] at hothers
  rcases List.append_eq_append_iff.1 hothers with ⟨rest, hwords, hrest⟩ | ⟨rest, rfl, hrest⟩
  · refine ⟨rest, hwords, ?_⟩
    cases rest with
    | nil =>
        obtain rfl : found = Syntax.stop tokens := (List.cons.inj hrest).1
        rw [if_pos (kind_stop tokens)]
        exact ⟨rfl, rfl⟩
    | cons word rest =>
        obtain rfl : found = word := (List.cons.inj hrest).1
        have hfound : found.kind ≠ .endOfInput :=
          ne_endOfInput_of_mem_words (hwords ▸ List.mem_append_right _ List.mem_cons_self)
        rw [if_neg hfound]
        exact ⟨rfl, rfl⟩
  · cases rest with
    | nil =>
        obtain rfl : Syntax.stop tokens = found := (List.cons.inj hrest).1
        refine ⟨[], by rw [List.append_nil, List.append_nil], ?_⟩
        rw [if_pos (kind_stop tokens)]
        exact ⟨rfl, rfl⟩
    | cons word rest =>
        -- The end of input would be among the given words.
        obtain rfl : Syntax.stop tokens = word := (List.cons.inj hrest).1
        exact absurd (kind_stop tokens)
          (htaken _ (List.mem_append_right _ List.mem_cons_self))

/-- Tokens up to the one that a syntax error names have this error however they go on. -/
theorem ofTokens_of_error {tokens : List Token} {error : SyntaxError}
    (herror : Program.ofTokens tokens = .error error) :
    ∃ index, (withEnd tokens)[index]? = some error.found ∧
      Syntax.functions .standard (Syntax.words tokens) =
        .error ⟨error.expected, (Syntax.words tokens).drop index⟩ ∧
      ∀ others, (withEnd tokens).take (index + 1) <+: withEnd others →
        Program.ofTokens others = .error error := by
  obtain ⟨expected, found⟩ := error
  obtain ⟨rest, hread, hfound⟩ := exists_failure_of_error herror
  obtain ⟨taken, hwords, hsame⟩ := exists_functions_of_failure hread
  obtain ⟨⟨after, htokens⟩, hnext⟩ := withEnd_eq_of_words hwords hfound
  have htaken : ∀ word ∈ taken, word.kind ≠ .endOfInput := fun word hword =>
    ne_endOfInput_of_mem_words (hwords ▸ List.mem_append_left _ hword)
  refine ⟨taken.length, ?_, ?_, fun others hothers => ?_⟩
  · rw [htokens]
    simp
  · rw [hread, hwords, List.drop_left]
  · have htake : (withEnd tokens).take (taken.length + 1) = taken ++ [found] := by
      rw [htokens, List.take_length_add_append]
      rfl
    rw [htake] at hothers
    obtain ⟨other, hother, hhead, hstop⟩ := exists_words_eq htaken hothers
    have hfailure := hsame other (hhead.trans hnext.symm)
    rw [Program.ofTokens, hother, hfailure]
    simp only [hstop]

end Grammar

/-- Errors are decided by the text up to them.  Every text that agrees with one up to and including
an unexpected character has the same error, and what stands before the character can be lexed.  All
tokens, an end of input supplied, that agree with given ones up to and including the token at which
reading fails have the same syntax error. -/
theorem errors_of_beginning (source : String) (tokens : List Token) :
    (∀ error, Token.lex source = .error error →
      ∃ before after, source.toList = before ++ error.character :: after ∧
        Text.byteLength before = error.offset ∧
        (∃ found, Token.lex (String.ofList before) = .ok found) ∧
        ∀ other, Token.lex (String.ofList (before ++ error.character :: other)) = .error error) ∧
    ∀ error, Program.ofTokens tokens = .error error →
      ∃ index, (Grammar.withEnd tokens)[index]? = some error.found ∧
        Syntax.functions .standard (Syntax.words tokens) =
          .error ⟨error.expected, (Syntax.words tokens).drop index⟩ ∧
        ∀ others, (Grammar.withEnd tokens).take (index + 1) <+: Grammar.withEnd others →
          Program.ofTokens others = .error error :=
  ⟨fun _ hlex => Lexical.lex_of_error hlex, fun _ herror => Grammar.ofTokens_of_error herror⟩

/-- A character that may go on a name, but not begin one, after a literal and a remark with it. -/
def misplacedDigit : String := "int x² = \"²\"; // ²\n y = ²² + \"²"

/-- A body that opens one parenthesis more than may be open at once. -/
def tooDeep : List Token :=
  [⟨.intKeyword, "int", 0⟩, ⟨.identifier, "f", 4⟩, ⟨.leftParen, "(", 5⟩, ⟨.rightParen, ")", 6⟩,
    ⟨.leftBrace, "\x7b", 8⟩] ++
    (List.range 257).map fun number => ⟨.leftParen, "(", 9 + number⟩

theorem errors_of_beginning_tooDeep :
    (Token.lex misplacedDigit = .error ⟨'²', 27⟩ ∧
      Program.ofTokens tooDeep = .error ⟨.lowerExpression, ⟨.leftParen, "(", 265⟩⟩) ∧
    (∃ before after, misplacedDigit.toList = before ++ '²' :: after ∧
      Text.byteLength before = 27 ∧
      (∃ found, Token.lex (String.ofList before) = .ok found) ∧
      ∀ other, Token.lex (String.ofList (before ++ '²' :: other)) = .error ⟨'²', 27⟩) ∧
    ∃ index, (Grammar.withEnd tooDeep)[index]? = some ⟨.leftParen, "(", 265⟩ ∧
      Syntax.functions .standard (Syntax.words tooDeep) =
        .error ⟨.lowerExpression, (Syntax.words tooDeep).drop index⟩ ∧
      ∀ others, (Grammar.withEnd tooDeep).take (index + 1) <+: Grammar.withEnd others →
        Program.ofTokens others = .error ⟨.lowerExpression, ⟨.leftParen, "(", 265⟩⟩ := by
  have hlex : Token.lex misplacedDigit = .error ⟨'²', 27⟩ := eq_error_of_error? (by decide +kernel)
  have hread : Program.ofTokens tooDeep = .error ⟨.lowerExpression, ⟨.leftParen, "(", 265⟩⟩ :=
    eq_error_of_error? (by decide +kernel)
  obtain ⟨hcharacters, htokens⟩ := errors_of_beginning misplacedDigit tooDeep
  exact ⟨⟨hlex, hread⟩, hcharacters _ hlex, htokens _ hread⟩

end TinyC
