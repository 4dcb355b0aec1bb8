import TinyC.Proofs.Lexical.Pieces

/-!
# Lexing loses nothing

A text that is lexed splits in exactly one way into trivia and the raw text of
tokens, and the tokens of this splitting, with the end of input after them, are
what lexing returns.  If it fails, this is true of the text up to a character
that no rule starts with, and the error names that character and its offset.
-/

namespace TinyC.Lexical

theorem ofText_of_first? {text rest : List Char} {piece : Piece}
    (hfirst : Piece.first? text = some (piece, rest)) :
    Scan.ofText text = ⟨piece :: (Scan.ofText rest).pieces, (Scan.ofText rest).rest⟩ := by
  rw [Scan.ofText]
  split
  · simp_all
  · rename_i found after hfound
    obtain ⟨rfl, rfl⟩ : piece = found ∧ rest = after := by simpa [hfirst] using hfound
    rfl

theorem ofText_of_first?_none {text : List Char} (hfirst : Piece.first? text = none) :
    Scan.ofText text = ⟨[], text⟩ := by
  rw [Scan.ofText]
  split
  · rfl
  · simp_all

/-- The pieces that a scan takes split the text. -/
theorem splits_ofText (offset : Nat) (text : List Char) :
    Splits offset (Scan.ofText text).pieces (Token.ofPieces offset (Scan.ofText text).pieces)
      (Scan.ofText text).rest := by
  fun_induction Scan.ofText text generalizing offset with
  | case1 text hfirst => exact .nil
  | case2 text piece rest hfirst scan ih =>
      have hpiece := isPiece_of_first? hfirst
      -- The rules look at the text after a piece, which is what the further pieces cover.
      rw [← Scan.covered_append_rest rest] at hpiece
      cases piece with
      | trivia raw => exact .trivia hpiece (ih _)
      | lexeme kind raw =>
          obtain ⟨lexeme, hraw⟩ := hpiece
          rw [Token.ofPieces, hraw.lexemeValue]
          exact .token hraw (ih _)

/-- Pieces that split a text are the ones that a scan takes first. -/
theorem Splits.ofText {offset : Nat} {pieces : List Piece} {tokens : List Token} {rest : List Char}
    (hsplits : Splits offset pieces tokens rest) :
    Scan.ofText (Scan.covered pieces ++ rest) =
        ⟨pieces ++ (Scan.ofText rest).pieces, (Scan.ofText rest).rest⟩ ∧
      tokens = Token.ofPieces offset pieces := by
  induction hsplits with
  | nil => exact ⟨rfl, rfl⟩
  | @trivia offset raw pieces tokens rest htrivia _ ih =>
      obtain ⟨hscan, htokens⟩ := ih
      have hcovered : Scan.covered (.trivia raw :: pieces) ++ rest =
          raw ++ (Scan.covered pieces ++ rest) := by simp [Scan.covered, Piece.raw]
      rw [hcovered, ofText_of_first? htrivia.first?, hscan]
      exact ⟨rfl, htokens⟩
  | @token offset kind lexeme raw pieces tokens rest hraw _ ih =>
      obtain ⟨hscan, htokens⟩ := ih
      have hcovered : Scan.covered (.lexeme kind raw :: pieces) ++ rest =
          raw ++ (Scan.covered pieces ++ rest) := by simp [Scan.covered, Piece.raw]
      rw [hcovered, ofText_of_first? hraw.first?, hscan, Token.ofPieces, hraw.lexemeValue, htokens]
      exact ⟨rfl, rfl⟩

/-- Two splittings up to the same place, where no rule applies, are the same. -/
theorem IsSplitting.eq_ofText {text : List Char} {pieces : List Piece} {tokens : List Token}
    {rest : List Char} (hsplitting : IsSplitting text pieces tokens rest)
    (hrest : Piece.first? rest = none) :
    pieces = (Scan.ofText text).pieces ∧ tokens = Token.ofPieces 0 (Scan.ofText text).pieces := by
  obtain ⟨hscan, htokens⟩ := hsplitting.splits.ofText
  rw [hsplitting.covers, ofText_of_first?_none hrest, List.append_nil] at hscan
  rw [hscan]
  exact ⟨rfl, htokens⟩

theorem isSplitting_ofText (text : List Char) :
    IsSplitting text (Scan.ofText text).pieces (Token.ofPieces 0 (Scan.ofText text).pieces)
      (Scan.ofText text).rest :=
  ⟨Scan.covered_append_rest text, splits_ofText 0 text⟩

/-- A text that is lexed splits to its end. -/
theorem exists_isSplitting {source : String} {tokens : List Token}
    (hlex : Token.lex source = .ok tokens) :
    ∃ pieces found, IsSplitting source.toList pieces found [] ∧
      tokens = found ++ [.endAt (Text.byteLength source.toList)] := by
  have hsplitting := isSplitting_ofText source.toList
  rw [Token.lex] at hlex
  cases hrest : (Scan.ofText source.toList).rest with
  | cons c rest => simp [hrest] at hlex
  | nil =>
      rw [hrest] at hlex hsplitting
      exact ⟨_, _, hsplitting, (Except.ok.inj hlex).symm⟩

theorem exists_endOfInput {source : String} {tokens : List Token}
    (hlex : Token.lex source = .ok tokens) : ∃ token ∈ tokens, token.kind = .endOfInput := by
  obtain ⟨_, found, -, rfl⟩ := exists_isSplitting hlex
  exact ⟨_, List.mem_append_right found (List.mem_singleton_self _), rfl⟩

/-- A text that splits to its end is lexed to the tokens of the splitting. -/
theorem lex_of_isSplitting {source : String} {pieces : List Piece} {tokens : List Token}
    (hsplitting : IsSplitting source.toList pieces tokens []) :
    Token.lex source = .ok (tokens ++ [.endAt (Text.byteLength source.toList)]) := by
  obtain ⟨hscan, htokens⟩ := hsplitting.splits.ofText
  have hend : Scan.ofText [] = ⟨[], []⟩ := ofText_of_first?_none rfl
  rw [hsplitting.covers, hend, List.append_nil] at hscan
  rw [Token.lex, hscan, htokens]

theorem IsRaw.ne_endOfInput {kind : Token.Kind} {lexeme raw rest : List Char}
    (hraw : IsRaw kind lexeme raw rest) : kind ≠ .endOfInput := by
  cases hraw with
  | mark hmark _ =>
      rintro rfl
      simp [Token.Kind.mark?] at hmark
  | number _ _ _ => simp
  | word _ _ _ hkind => cases hkind <;> simp
  | string _ _ => simp

theorem Splits.exists_isRaw {offset : Nat} {pieces : List Piece} {tokens : List Token}
    {rest : List Char} (hsplits : Splits offset pieces tokens rest) :
    ∀ token ∈ tokens, ∃ raw after, IsRaw token.kind token.lexeme.toList raw after := by
  induction hsplits with
  | nil => simp
  | trivia _ _ ih => exact ih
  | @token offset kind lexeme raw pieces tokens rest hraw _ ih =>
      refine List.forall_mem_cons.2 ⟨⟨raw, Scan.covered pieces ++ rest, ?_⟩, ih⟩
      rwa [String.toList_ofList]

theorem Splits.ne_endOfInput {offset : Nat} {pieces : List Piece} {tokens : List Token}
    {rest : List Char} (hsplits : Splits offset pieces tokens rest) :
    ∀ token ∈ tokens, token.kind ≠ .endOfInput := by
  intro token htoken
  obtain ⟨raw, after, hraw⟩ := hsplits.exists_isRaw token htoken
  exact hraw.ne_endOfInput

/-- Every token of a text is its end or comes from a raw text. -/
theorem exists_isRaw_of_lex {source : String} {tokens : List Token}
    (hlex : Token.lex source = .ok tokens) :
    ∀ token ∈ tokens, (∃ offset, token = .endAt offset) ∨
      ∃ raw after, IsRaw token.kind token.lexeme.toList raw after := by
  obtain ⟨pieces, found, hsplitting, rfl⟩ := exists_isSplitting hlex
  refine List.forall_mem_append.2 ⟨fun token htoken => ?_, fun token htoken => ?_⟩
  · exact .inr (hsplitting.splits.exists_isRaw token htoken)
  · exact .inl ⟨_, List.mem_singleton.1 htoken⟩

/-- Lexing is exact: the tokens are those of the only splitting of the text, each at the byte where
its raw text starts, and the end of input stands after them at the length of the text.  An
unexpected character comes after the only splitting of the text before it, and starts nothing. -/
theorem lex_exact (source : String) :
    match Token.lex source with
    | .ok tokens => ∃ pieces found,
        tokens = found ++ [.endAt (Text.byteLength source.toList)] ∧
        (∀ token ∈ found, token.kind ≠ .endOfInput) ∧
        IsSplitting source.toList pieces found [] ∧
        ∀ others foundOthers, IsSplitting source.toList others foundOthers [] →
          others = pieces ∧ foundOthers = found
    | .error error => ∃ pieces found rest,
        Text.byteLength (Scan.covered pieces) = error.offset ∧
        StartsNothing error.character ∧
        IsSplitting source.toList pieces found (error.character :: rest) ∧
        ∀ others foundOthers,
          IsSplitting source.toList others foundOthers (error.character :: rest) →
            others = pieces ∧ foundOthers = found := by
  have hsplitting := isSplitting_ofText source.toList
  have hnone := Scan.first?_rest source.toList
  rw [Token.lex]
  cases hrest : (Scan.ofText source.toList).rest with
  | nil =>
      rw [hrest] at hsplitting hnone
      exact ⟨_, _, rfl, hsplitting.splits.ne_endOfInput, hsplitting,
        fun others foundOthers hothers => hothers.eq_ofText hnone⟩
  | cons c rest =>
      rw [hrest] at hsplitting hnone
      exact ⟨_, _, rest, rfl, startsNothing_of_first? hnone, hsplitting,
        fun others foundOthers hothers => hothers.eq_ofText hnone⟩

end TinyC.Lexical
