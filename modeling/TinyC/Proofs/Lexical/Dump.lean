import TinyC.Proofs.Grammar.Lexemes
import TinyC.Proofs.Lexical.Splitting
import TinyC.Proofs.Source.Coordinates
import TinyC.Proofs.Text.Delimited

/-!
# Lists of tokens in print

Tokens are printed with line feeds between their texts, and lexemes as they are.
So the lines of a list are those of the texts in a row, and a text has more than
one line where its lexeme has line feeds, which only the value of a string
literal can have.

What a token is can be told from its text: no name of a kind has a comma in it,
and no offset an equals sign.  A list can be told from its lines if every token
has one.
-/

namespace TinyC

/-! ## Raw text on one line -/

namespace Lexical

/-- Only the value of a string literal can have a line feed in it. -/
theorem IsRaw.lineFeed_not_mem {kind : Token.Kind} {lexeme raw rest : List Char}
    (hraw : IsRaw kind lexeme raw rest) (hkind : kind ≠ .string) : '\n' ∉ lexeme := by
  have hnone : ∀ {property : Char → Bool} {text : List Char}, property '\n' = false →
      (∀ c ∈ text, property c = true) → '\n' ∉ text := by
    intro property text hfeed htext hmem
    rw [htext _ hmem] at hfeed
    cases hfeed
  cases hraw with
  | mark hmark _ =>
      intro hmem
      obtain rfl := List.mem_singleton.1 hmem
      cases kind <;> simp [Token.Kind.mark?] at hmark
  | number _ hdigits _ => exact hnone (by decide) hdigits
  | word hfirst hothers _ _ =>
      exact hnone (by decide) (List.forall_mem_cons.2
        ⟨continuesIdentifier_of_starts hfirst, hothers⟩)
  | string _ _ => exact absurd rfl hkind

end Lexical

/-! ## Texts of tokens -/

namespace Token

theorem toList_text (token : Token) :
    token.text.toList = "Token(".toList ++ (token.kind.name.toList ++ ',' ::
      (" '".toList ++ ((token.lexeme.toList ++ "', pos".toList) ++ '=' ::
        (Numeral.digits 10 token.offset ++ [')'])))) := by
  simp [text, Numeral.ofNat]

namespace Kind

theorem name_injective : Function.Injective name := by
  intro first second hname
  cases first <;> cases second <;> first | rfl | exact absurd hname (by decide)

theorem comma_not_mem_name (kind : Kind) : ',' ∉ kind.name.toList := by
  cases kind <;> decide

theorem lineFeed_not_mem_name (kind : Kind) : '\n' ∉ kind.name.toList := by
  cases kind <;> decide

end Kind

/-- What is no digit does not stand in an offset. -/
theorem not_mem_digits {c : Char} (hc : c.isDigit = false) (offset : Nat) :
    c ∉ Numeral.digits 10 offset := by
  intro hmem
  rw [Numeral.isDigit_of_mem_digits offset c hmem] at hc
  cases hc

/-- Tokens are told apart by their texts. -/
theorem text_injective : Function.Injective text := by
  intro first second htext
  have hlists := congrArg String.toList htext
  rw [toList_text, toList_text] at hlists
  obtain ⟨hname, hlists⟩ := append_cons_inj first.kind.comma_not_mem_name
    second.kind.comma_not_mem_name (List.append_cancel_left hlists)
  -- A lexeme may have any character in it, but the last equals sign stands before the offset.
  have hdigits : ∀ offset, '=' ∉ Numeral.digits 10 offset ++ [')'] := fun offset => by
    simpa using not_mem_digits (by decide) offset
  obtain ⟨hlexeme, hoffset⟩ := append_cons_inj_last (hdigits first.offset) (hdigits second.offset)
    (List.append_cancel_left hlists)
  obtain ⟨kind, lexeme, offset⟩ := first
  obtain ⟨otherKind, otherLexeme, otherOffset⟩ := second
  obtain rfl : kind = otherKind := Kind.name_injective (String.toList_inj.1 hname)
  obtain rfl : lexeme = otherLexeme := String.toList_inj.1 (List.append_cancel_right hlexeme)
  obtain rfl : offset = otherOffset := by
    rw [← Numeral.valueOf_digits offset, List.append_cancel_right hoffset, Numeral.valueOf_digits]
  rfl

/-- The line feeds in the text of a token are those of its lexeme. -/
theorem count_text (token : Token) :
    token.text.toList.count '\n' = token.lexeme.toList.count '\n' := by
  have hname := List.count_eq_zero.2 token.kind.lineFeed_not_mem_name
  have hoffset := List.count_eq_zero.2 (not_mem_digits (by decide : ('\n').isDigit = false)
    token.offset)
  rw [toList_text]
  simp [hname, hoffset]

/-! ## Lexemes on one line -/

/-- Only a string literal can have a line feed in its lexeme. -/
theorem lineFeed_not_mem_lexeme {source : String} {tokens : List Token}
    (hlex : lex source = .ok tokens) :
    ∀ token ∈ tokens, token.kind ≠ .string → '\n' ∉ token.lexeme.toList := by
  intro token htoken hkind
  rcases Lexical.exists_isRaw_of_lex hlex token htoken with ⟨offset, rfl⟩ | ⟨raw, after, hraw⟩
  · simp [endAt]
  · exact hraw.lineFeed_not_mem hkind

theorem ne_nil_of_lex {source : String} {tokens : List Token} (hlex : lex source = .ok tokens) :
    tokens ≠ [] := by
  obtain ⟨token, htoken, -⟩ := Lexical.exists_endOfInput hlex
  exact List.ne_nil_of_mem htoken

/-- If no string has a line feed in its value, no lexeme has one. -/
theorem lineFeed_not_mem_lexeme_of_strings {source : String} {tokens : List Token}
    (hlex : lex source = .ok tokens)
    (hstrings : ∀ value ∈ Grammar.lexemes .string tokens, '\n' ∉ value.toList) :
    ∀ token ∈ tokens, '\n' ∉ token.lexeme.toList := by
  intro token htoken
  by_cases hkind : token.kind = .string
  · exact hstrings _ (List.mem_filterMap.2 ⟨token, htoken, if_pos hkind⟩)
  · exact lineFeed_not_mem_lexeme hlex token htoken hkind

/-! ## Lines of a list -/

variable {tokens others : List Token}

/-- The line feeds in all lexemes are those in the values of the strings, if the other lexemes have
none. -/
theorem count_lexemes
    (hplain : ∀ token ∈ tokens, token.kind ≠ .string → '\n' ∉ token.lexeme.toList) :
    (tokens.flatMap fun token => token.lexeme.toList).count '\n' =
      ((Grammar.lexemes .string tokens).flatMap String.toList).count '\n' := by
  induction tokens with
  | nil => rfl
  | cons token rest ih =>
      obtain ⟨htoken, hrest⟩ := List.forall_mem_cons.1 hplain
      rw [List.flatMap_cons, List.count_append, ih hrest, Grammar.lexemes_cons]
      by_cases hkind : token.kind = .string
      · simp [hkind]
      · simp [hkind, List.count_eq_zero.2 (htoken hkind)]

theorem splitOn_intercalate_lineFeed {texts : List String} (hne : texts ≠ []) :
    ("\n".intercalate texts).toList.splitOn '\n' =
      texts.flatMap fun text => text.toList.splitOn '\n' := by
  induction texts with
  | nil => exact absurd rfl hne
  | cons text rest ih =>
      cases rest with
      | nil => simp
      | cons second rest =>
          have htail : ("\n".intercalate (text :: second :: rest)).toList =
              text.toList ++ '\n' :: ("\n".intercalate (second :: rest)).toList := by
            simp [String.intercalate_cons_cons]
          rw [htail, List.splitOn, List.splitOnP_append_cons _ _ (by rfl), List.flatMap_cons,
            ← ih (by simp)]
          rfl

/-- A list with a line feed after it is the texts of its tokens, each with a line feed after it. -/
theorem dump_append_lineFeed (hne : tokens ≠ []) :
    dump tokens ++ "\n" = String.join (tokens.map fun token => token.text ++ "\n") := by
  rw [← String.toList_inj, dump]
  induction tokens with
  | nil => exact absurd rfl hne
  | cons token rest ih =>
      cases rest with
      | nil => simp
      | cons second rest => simpa [String.intercalate_cons_cons] using ih (by simp)

/-- A list has the lines of its tokens, one token after another. -/
theorem splitOn_dump (hne : tokens ≠ []) :
    (dump tokens).toList.splitOn '\n' =
      tokens.flatMap fun token => token.text.toList.splitOn '\n' := by
  rw [dump, splitOn_intercalate_lineFeed (by simpa using hne), List.flatMap_map]

/-- A list has a line for each token and one more for each line feed in a lexeme. -/
theorem length_splitOn_dump (hne : tokens ≠ []) :
    ((dump tokens).toList.splitOn '\n').length =
      tokens.length + (tokens.flatMap fun token => token.lexeme.toList).count '\n' := by
  rw [splitOn_dump hne]
  clear hne
  induction tokens with
  | nil => rfl
  | cons token rest ih =>
      rw [List.flatMap_cons, List.length_append, ih, Source.length_splitOn, count_text,
        List.length_cons, List.flatMap_cons, List.count_append]
      omega

/-- Tokens have one line each if no lexeme has a line feed. -/
theorem splitOn_dump_of_plain (hne : tokens ≠ [])
    (hplain : ∀ token ∈ tokens, '\n' ∉ token.lexeme.toList) :
    (dump tokens).toList.splitOn '\n' = tokens.map fun token => token.text.toList := by
  have hline : ∀ token ∈ tokens, token.text.toList.splitOn '\n' = [token.text.toList] := by
    intro token htoken
    have hcount := count_text token
    rw [List.count_eq_zero.2 (hplain token htoken)] at hcount
    refine List.splitOnP_eq_singleton fun c hc => beq_eq_false_iff_ne.2 ?_
    rintro rfl
    exact List.count_eq_zero.1 hcount hc
  rw [splitOn_dump hne, List.flatMap_def, List.map_congr_left hline, ← List.flatMap_def,
    ← List.map_eq_flatMap]

/-- Lists of tokens that have one line each are told apart by what is printed. -/
theorem dump_inj (htokens : ∀ token ∈ tokens, '\n' ∉ token.lexeme.toList)
    (hothers : ∀ token ∈ others, '\n' ∉ token.lexeme.toList) (hdump : dump tokens = dump others) :
    tokens = others := by
  have hnil : ∀ {token : Token} {rest : List Token}, dump [] ≠ dump (token :: rest) := by
    intro token rest heq
    have hempty := congrArg (fun text => (String.toList text).head?) heq
    cases rest <;> simp [dump, toList_text, String.intercalate_cons_cons] at hempty
  cases tokens with
  | nil =>
      cases others with
      | nil => rfl
      | cons other others => exact absurd hdump hnil
  | cons token tokens =>
      cases others with
      | nil => exact absurd hdump.symm hnil
      | cons other others =>
          have hlines := congrArg (fun text => (String.toList text).splitOn '\n') hdump
          rw [splitOn_dump_of_plain (by simp) htokens, splitOn_dump_of_plain (by simp) hothers]
            at hlines
          exact List.map_injective_iff.2 (fun first second htext =>
            text_injective (String.toList_inj.1 htext)) hlines

end Token

end TinyC
