import TinyC.Proofs.CommandLine.Execution
import TinyC.Proofs.Lexical.Dump

/-!
# Listing tokens

The command that lists tokens puts the text of each of them on a line of its own,
with the lexeme written as it is.  The value of a string may have line feeds in
it, and then its token has more than one line.  These are the only extra lines:
without them the lines are the texts of the tokens, which can be read off them
again, and with them they cannot.
-/

namespace TinyC.Invocation

variable {text : String} {tokens : List Token}

/-- The command prints the list, and a line feed after it. -/
theorem execute_tokens_eq_dump {settings : Settings} {files : FileSystem} {input : Input}
    {coloring : Coloring} (hread : readInput files input = .ok text)
    (hlex : Token.lex text = .ok tokens) :
    execute ⟨.tokens, input, coloring⟩ settings files =
      .ok ⟨0, Token.dump tokens ++ "\n", "", files⟩ := by
  rw [execute_tokens hread hlex, Token.dump_append_lineFeed (Token.ne_nil_of_lex hlex)]

/-- No string literal in a list of tokens has a line feed in its value. -/
def StringsOnOneLine (tokens : List Token) : Prop :=
  ∀ value ∈ Grammar.lexemes .string tokens, '\n' ∉ value.toList

/-- What is printed when the tokens of a text are listed. -/
structure ListsTokens (text : String) (tokens : List Token) : Prop where
  /-- Wherever the text is read from, the list and a line feed are all that is printed. -/
  printed : ∀ settings files coloring input, readInput files input = .ok text →
    execute ⟨.tokens, input, coloring⟩ settings files =
      .ok ⟨0, Token.dump tokens ++ "\n", "", files⟩
  /-- The lines are those of the tokens, one token after another. -/
  lines : (Token.dump tokens).toList.splitOn '\n' =
    tokens.flatMap fun token => token.text.toList.splitOn '\n'
  /-- There is a line for each token, and one more for each line feed in the value of a string. -/
  count : ((Token.dump tokens).toList.splitOn '\n').length = tokens.length +
    ((Grammar.lexemes .string tokens).flatMap String.toList).count '\n'
  /-- The lines are the texts of the tokens exactly if no value of a string has a line feed. -/
  plain : (Token.dump tokens).toList.splitOn '\n' = (tokens.map fun token => token.text.toList) ↔
    StringsOnOneLine tokens
  /-- The tokens can then be told from those of all other texts for which this is so. -/
  recovered : StringsOnOneLine tokens → ∀ other others, Token.lex other = .ok others →
    StringsOnOneLine others → Token.dump others = Token.dump tokens → others = tokens

/-- Tokens are listed with one line for each and one more for each line feed in a string, and can be
told from the list if there are none. -/
theorem tokens_on_lines (hlex : Token.lex text = .ok tokens) : ListsTokens text tokens := by
  have hne := Token.ne_nil_of_lex hlex
  have hcount := Token.length_splitOn_dump hne
  rw [Token.count_lexemes (Token.lineFeed_not_mem_lexeme hlex)] at hcount
  constructor
  case printed => exact fun settings files coloring input hread => execute_tokens_eq_dump hread hlex
  case lines => exact Token.splitOn_dump hne
  case count => exact hcount
  case plain =>
    constructor
    · intro hlines value hvalue
      rw [hlines, List.length_map, Nat.left_eq_add, List.count_eq_zero] at hcount
      exact fun hfeed => hcount (List.mem_flatMap.2 ⟨value, hvalue, hfeed⟩)
    · exact fun hplain => Token.splitOn_dump_of_plain hne
        (Token.lineFeed_not_mem_lexeme_of_strings hlex hplain)
  case recovered =>
    exact fun hplain other others hother hothers hdump => Token.dump_inj
      (Token.lineFeed_not_mem_lexeme_of_strings hother hothers)
      (Token.lineFeed_not_mem_lexeme_of_strings hlex hplain) hdump

/-! ## Concrete texts -/

/-- A string that looks like a token, and a backslash in another string. -/
def disguised : String := "\"', pos=0)Token(EOF, '\" \"\\\\\""

/-- The tokens of that text. -/
def disguisedTokens : List Token :=
  [⟨.string, "', pos=0)Token(EOF, '", 0⟩, ⟨.string, "\\", 24⟩, ⟨.endOfInput, "", 28⟩]

/-- What looks like a token is on the line of the string that it is in. -/
theorem tokens_on_lines_disguised :
    Token.lex disguised = .ok disguisedTokens ∧ StringsOnOneLine disguisedTokens ∧
      (∀ files, execute ⟨.tokens, ⟨disguised, true⟩, .auto⟩ {} files =
        .ok ⟨0, Token.dump disguisedTokens ++ "\n", "", files⟩) ∧
      (Token.dump disguisedTokens).toList.splitOn '\n' =
        disguisedTokens.map fun token => token.text.toList := by
  have hlex : Token.lex disguised = .ok disguisedTokens := eq_ok_of_toOption (by decide +kernel)
  have hplain : StringsOnOneLine disguisedTokens := by unfold StringsOnOneLine; decide
  have hlists := tokens_on_lines hlex
  exact ⟨hlex, hplain, fun files => hlists.printed {} files .auto ⟨disguised, true⟩ rfl,
    hlists.plain.2 hplain⟩

/-- A string with a line feed in its value. -/
def broken : String := "\"a\\nb\""

/-- The tokens of that text. -/
def brokenTokens : List Token := [⟨.string, "a\nb", 0⟩, ⟨.endOfInput, "", 6⟩]

/-- A string with a line feed has two lines, and the tokens of different texts can have the same
lines. -/
theorem tokens_not_on_lines :
    (Token.lex broken = .ok brokenTokens ∧
        (∀ files, execute ⟨.tokens, ⟨broken, true⟩, .auto⟩ {} files =
          .ok ⟨0, "Token(STRING, 'a\nb', pos=0)\nToken(EOF, '', pos=6)\n", "", files⟩) ∧
        ((Token.dump brokenTokens).toList.splitOn '\n').length = 3 ∧ brokenTokens.length = 2) ∧
      ∃ text other tokens others, Token.lex text = .ok tokens ∧ Token.lex other = .ok others ∧
        tokens ≠ others ∧ Token.dump tokens = Token.dump others := by
  have hlex : Token.lex broken = .ok brokenTokens := eq_ok_of_toOption (by decide +kernel)
  refine ⟨⟨hlex, fun files => ?_, by decide +kernel, rfl⟩, ?_⟩
  · have hread : readInput files ⟨broken, true⟩ = .ok broken := rfl
    have hdump : Token.dump brokenTokens ++ "\n" =
        "Token(STRING, 'a\nb', pos=0)\nToken(EOF, '', pos=6)\n" := by decide +kernel
    rw [execute_tokens_eq_dump hread hlex, hdump]
  · exact ⟨"\"a\" \"b\"                          ",
      "    \"a', pos=0)\nToken(STRING, 'b\"",
      [⟨.string, "a", 0⟩, ⟨.string, "b", 4⟩, ⟨.endOfInput, "", 33⟩],
      [⟨.string, "a', pos=0)\nToken(STRING, 'b", 4⟩, ⟨.endOfInput, "", 33⟩],
      eq_ok_of_toOption (by decide +kernel), eq_ok_of_toOption (by decide +kernel), by decide,
      by decide +kernel⟩

end TinyC.Invocation
