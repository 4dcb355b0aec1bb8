import TinyC.Proofs.Grammar.Relocation
import TinyC.Proofs.Lexical.Composition
import TinyC.Proofs.SourceText.Names

/-!
# Layout changes nothing

Before any token of a text, blanks, comments and directives may be inserted as
long as a blank comes first, so that the token before does not go on and no
slash joins another one.  The text keeps its tokens; those after the place are
found later by the length of what was inserted.  What the text means does not
depend on it, and an error is the same error, found at the place to which its
token or character was moved.
-/

namespace TinyC

/-! ## Inserted text -/

/-- What may stand between tokens: blanks, and comments and directives with the line feeds that
end them. -/
inductive IsGap : List Char → Prop
  | nil : IsGap []
  | blank {c : Char} {rest : List Char} :
      c ∈ [' ', '\t', '\r', '\n'] → IsGap rest → IsGap (c :: rest)
  | comment {body rest : List Char} :
      '\n' ∉ body → IsGap rest → IsGap ('/' :: '/' :: (body ++ '\n' :: rest))
  | directive {body rest : List Char} :
      '\n' ∉ body → IsGap rest → IsGap ('#' :: (body ++ '\n' :: rest))

/-- A gap that begins with a blank. -/
structure IsLayout (text : List Char) : Prop where
  isGap : IsGap text
  blank_first : ∃ b ∈ text.head?, b ∈ [' ', '\t', '\r', '\n']

/-- The text with another one inserted at a byte offset, if that is not inside a character. -/
def inserted? (offset : Nat) (addition : List Char) (source : String) : Option String :=
  (Text.splitAtByte? offset source.toList).map fun (before, after) =>
    String.ofList (before ++ addition ++ after)

/-- Where an offset is after bytes were inserted at a place. -/
def makeRoom (place size offset : Nat) : Nat := if offset < place then offset else offset + size

/-- The text of the script to which a source translates. -/
def Script.textOf (source : String) : Except SourceError String :=
  (Program.ofText source).map fun program => (Script.ofProgram program).code

/-! ## What is inserted is trivia -/

/-- A line of trivia splits off, and its line feed is a blank. -/
theorem exists_splits_line (start : List Char) {body gap rest : List Char} (hbody : '\n' ∉ body)
    (htrivia : ∀ {after}, Lexical.EndsLine body after → Lexical.IsTrivia (start ++ body) after)
    (hgap : ∀ offset, ∃ pieces, Scan.covered pieces = gap ∧ Lexical.Splits offset pieces [] rest)
    (offset : Nat) :
    ∃ pieces, Scan.covered pieces = start ++ body ++ '\n' :: gap ∧
      Lexical.Splits offset pieces [] rest := by
  obtain ⟨pieces, rfl, hsplits⟩ :=
    hgap (offset + Text.byteLength (start ++ body) + Text.byteLength ['\n'])
  refine ⟨.trivia (start ++ body) :: .trivia ['\n'] :: pieces, rfl, .trivia (htrivia ?_) ?_⟩
  · exact ⟨hbody, fun c hc => (Option.some.inj hc).symm⟩
  · exact .trivia (.blank (by simp)) hsplits

/-- A gap splits into trivia, whatever follows it. -/
theorem IsGap.exists_splits {text : List Char} (hgap : IsGap text) (rest : List Char)
    (offset : Nat) :
    ∃ pieces, Scan.covered pieces = text ∧ Lexical.Splits offset pieces [] rest := by
  induction hgap generalizing offset with
  | nil => exact ⟨[], rfl, .nil⟩
  | @blank c text hblank _ ih =>
      obtain ⟨pieces, rfl, hsplits⟩ := ih (offset + Text.byteLength [c])
      exact ⟨.trivia [c] :: pieces, rfl, .trivia (.blank hblank) hsplits⟩
  | comment hbody _ ih => exact exists_splits_line ['/', '/'] hbody .comment ih offset
  | directive hbody _ ih => exact exists_splits_line ['#'] hbody .directive ih offset

/-! ## Tokens that stay and tokens that move -/

theorem relocate_makeRoom_of_lt {place size : Nat} {tokens : List Token}
    (hearlier : ∀ token ∈ tokens, token.offset < place) :
    tokens.map (Token.relocate (makeRoom place size)) = tokens := by
  refine (List.map_congr_left fun token htoken => ?_).trans (List.map_id tokens)
  rw [Token.relocate, makeRoom, if_pos (hearlier token htoken)]
  rfl

theorem relocate_makeRoom_add (place size : Nat) (tokens : List Token) :
    (tokens.map (Token.relocate (· + place))).map (Token.relocate (makeRoom place size)) =
      tokens.map (Token.relocate (· + (place + size))) := by
  rw [List.map_map]
  refine List.map_congr_left fun token _ => ?_
  have hplace : ¬ token.offset + place < place := by omega
  simp only [Function.comp_apply, Token.relocate, makeRoom, if_neg hplace, Nat.add_assoc]

/-- A text is lexed in two parts, the second of which begins where a token starts. -/
theorem exists_parts {source : String} {tokens : List Token} {token : Token}
    (hlex : Token.lex source = .ok tokens) (htoken : token ∈ tokens)
    (hkind : token.kind ≠ .endOfInput) :
    ∃ pieces earlier c after later,
      Lexical.IsSplitting source.toList pieces earlier (c :: after) ∧
      Token.lex (String.ofList (c :: after)) = .ok later ∧
      tokens = earlier ++ later.map (Token.relocate (· + token.offset)) ∧
      token.offset = Text.byteLength (Scan.covered pieces) ∧
      (∀ found ∈ earlier, found.offset < token.offset) ∧ c ≠ '\n' := by
  obtain ⟨all, found, hsplitting, rfl⟩ := Lexical.exists_isSplitting hlex
  have hfound : token ∈ found := by
    obtain hfound | hend := List.mem_append.1 htoken
    · exact hfound
    · exact absurd (congrArg Token.kind (List.mem_singleton.1 hend)) hkind
  obtain ⟨pieces, earlier, c, after, hsplits, htext, hoffset, hearlier, hc⟩ :=
    hsplitting.splits.exists_of_mem hfound
  rw [hsplitting.covers] at htext
  rw [Nat.zero_add] at hoffset
  have hwhole := hsplits.lex_append
  rw [htext, String.ofList_toList, hlex, ← hoffset] at hwhole
  cases hlater : Token.lex (String.ofList (c :: after)) with
  | error error =>
      rw [hlater] at hwhole
      cases hwhole
  | ok later =>
      rw [hlater] at hwhole
      exact ⟨pieces, earlier, c, after, later, ⟨htext, hsplits⟩, hlater, Except.ok.inj hwhole,
        hoffset, hearlier, hc⟩

/-- Lexing a text with layout before one of its tokens. -/
theorem lex_inserted {source : String} {tokens : List Token} {token : Token} {layout : List Char}
    (hlex : Token.lex source = .ok tokens) (htoken : token ∈ tokens)
    (hkind : token.kind ≠ .endOfInput) (hlayout : IsLayout layout) :
    ∃ changed, inserted? token.offset layout source = some changed ∧
      Token.lex changed =
        .ok (tokens.map (Token.relocate (makeRoom token.offset (Text.byteLength layout)))) := by
  obtain ⟨pieces, earlier, c, after, later, hsplitting, hlater, rfl, hoffset, hearlier, hc⟩ :=
    exists_parts hlex htoken hkind
  obtain ⟨gap, rfl, hgap⟩ := hlayout.isGap.exists_splits (c :: after) (0 + token.offset)
  -- The pieces before the token stay pieces before the layout.
  have hreplace : Lexical.MayReplace (fun _ => True) (c :: after)
      (Scan.covered gap ++ c :: after) := by
    obtain ⟨b, hb, hblank⟩ := hlayout.blank_first
    obtain ⟨others, hcons⟩ := List.head?_eq_some_iff.1 hb
    rw [hcons]
    exact .blank hc hblank
  have hbefore := hsplitting.splits.replace hreplace fun _ _ => trivial
  rw [hoffset] at hgap
  have hchanged := (hbefore.append hgap).lex_append
  rw [hlater, Lexical.covered_append, Text.byteLength_append, ← hoffset, List.append_nil]
    at hchanged
  refine ⟨_, ?_, hchanged.trans ?_⟩
  · rw [inserted?, ← hsplitting.covers, hoffset, Text.splitAtByte?_byteLength]
    rfl
  · rw [List.map_append, relocate_makeRoom_of_lt hearlier, relocate_makeRoom_add]
    rfl

/-! ## Programs -/

/-- A text whose tokens are those of another one, moved, forms the same program or has the same
error, moved. -/
theorem ofText_relocate {source changed : String} {tokens : List Token} {move : Nat → Nat}
    (hlex : Token.lex source = .ok tokens)
    (hchanged : Token.lex changed = .ok (tokens.map (Token.relocate move))) :
    Program.ofText changed = (Program.ofText source).mapError (SourceError.relocate move) := by
  have hread : Program.ofTokens (tokens.map (Token.relocate move)) =
      (Program.ofTokens tokens).mapError (SyntaxError.relocate move) :=
    Syntax.ofTokens_relocate (Lexical.exists_endOfInput hlex)
  rw [Program.ofText, Program.ofText, hlex, hchanged]
  dsimp only
  rw [hread]
  cases Program.ofTokens tokens <;> rfl

/-- Layout before a token changes no kind and no lexeme, only the places from there on.  The
program is the same and so is the script; what is no program has the same error, at the place to
which its token was moved. -/
theorem layout_changes_only_places {source : String} {tokens : List Token} {token : Token}
    {layout : List Char} (hlex : Token.lex source = .ok tokens) (htoken : token ∈ tokens)
    (hkind : token.kind ≠ .endOfInput) (hlayout : IsLayout layout) :
    ∃ changed, inserted? token.offset layout source = some changed ∧
      Token.lex changed =
        .ok (tokens.map (Token.relocate (makeRoom token.offset (Text.byteLength layout)))) ∧
      Program.ofText changed = (Program.ofText source).mapError
        (SourceError.relocate (makeRoom token.offset (Text.byteLength layout))) ∧
      Script.textOf changed = (Script.textOf source).mapError
        (SourceError.relocate (makeRoom token.offset (Text.byteLength layout))) := by
  obtain ⟨changed, hinserted, hchanged⟩ := lex_inserted hlex htoken hkind hlayout
  have hprogram := ofText_relocate hlex hchanged
  refine ⟨changed, hinserted, hchanged, hprogram, ?_⟩
  rw [Script.textOf, Script.textOf, hprogram]
  cases Program.ofText source <;> rfl

/-- A text in which a slash and a number touch. -/
def quotient : String := "int main() \x7b return 1/2; \x7d"

/-- The tokens of that text. -/
def quotientTokens : List Token :=
  [⟨.intKeyword, "int", 0⟩, ⟨.identifier, "main", 4⟩, ⟨.leftParen, "(", 8⟩, ⟨.rightParen, ")", 9⟩,
    ⟨.leftBrace, "\x7b", 11⟩, ⟨.returnKeyword, "return", 13⟩, ⟨.number, "1", 20⟩,
    ⟨.slash, "/", 21⟩, ⟨.number, "2", 22⟩, ⟨.semicolon, ";", 23⟩, ⟨.rightBrace, "\x7d", 25⟩,
    ⟨.endOfInput, "", 26⟩]

/-- A comment and a directive after a blank. -/
def remarks : List Char :=
  ' ' :: '/' :: '/' :: ([' ', 'b', 'y'] ++ '\n' :: '#' :: (['t', 'w', 'o'] ++ ['\n']))

theorem isLayout_remarks : IsLayout remarks :=
  ⟨.blank (by decide) (.comment (by decide) (.directive (by decide) .nil)), ' ', rfl, by decide⟩

/-- The divisor is still the divisor when remarks stand before it. -/
theorem layout_changes_only_places_divisor :
    ∃ changed, inserted? 22 remarks quotient = some changed ∧
      Token.lex changed = .ok (quotientTokens.map (Token.relocate (makeRoom 22 12))) ∧
      Program.ofText changed =
        .ok ⟨[⟨"main", [.returns (some (.binary .div (.number 1) (.number 2)))]⟩]⟩ := by
  have hlex : Token.lex quotient = .ok quotientTokens := eq_ok_of_toOption (by decide +kernel)
  have hdivisor : (⟨.number, "2", 22⟩ : Token) ∈ quotientTokens := by decide
  have hread : Program.ofText quotient =
      .ok ⟨[⟨"main", [.returns (some (.binary .div (.number 1) (.number 2)))]⟩]⟩ :=
    ofText_eq_ok_of_toOption (by decide +kernel)
  obtain ⟨changed, hinserted, hchanged, hprogram, -⟩ :=
    layout_changes_only_places hlex hdivisor (by decide) isLayout_remarks
  exact ⟨changed, hinserted, hchanged, hprogram.trans (by rw [hread]; rfl)⟩

end TinyC
