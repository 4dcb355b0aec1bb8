import TinyC.Proofs.Lexical.Splitting
import TinyC.Proofs.Relocation

/-!
# Texts in a row

A text that splits into pieces before a rest can stand before that rest
whatever comes later: lexing the whole gives the tokens of the pieces, then what
lexing the rest gives, moved by the length of the first text.

## Strategy

The rules see nothing of what follows a piece except its first character, and
whether there is one.  `MayReplace` says which texts may follow in the place of
another one.  A splitting before the one is then a splitting before the other,
because only its last piece is next to them.
-/

namespace TinyC.Lexical

variable {kinds : Token.Kind → Prop} {offset : Nat} {pieces others : List Piece}
  {tokens found : List Token} {rest other : List Char}

/-! ## What follows a piece -/

/-- What is trivia or a token of one of the kinds before the rest is the same before the other
text. -/
structure MayReplace (kinds : Token.Kind → Prop) (rest other : List Char) : Prop where
  trivia : ∀ {raw}, IsTrivia raw rest → IsTrivia raw other
  raw : ∀ {kind lexeme raw}, kinds kind → IsRaw kind lexeme raw rest → IsRaw kind lexeme raw other

/-- Texts with the same first character, or without any, may replace each other. -/
theorem MayReplace.of_head? (hhead : rest.head? = other.head?) : MayReplace kinds rest other := by
  constructor
  · rintro raw (hblank | hline | hline)
    · exact .blank hblank
    · exact .directive ⟨hline.not_mem, hhead ▸ hline.next_eq⟩
    · exact .comment ⟨hline.not_mem, hhead ▸ hline.next_eq⟩
  · rintro kind lexeme raw - hraw
    cases hraw with
    | mark hmark hslash => exact .mark hmark (hhead ▸ hslash)
    | number hne hdigits hnext => exact .number hne hdigits (hhead ▸ hnext)
    | word hfirst hothers hnext hkind => exact .word hfirst hothers (hhead ▸ hnext) hkind
    | string hbody hstop =>
        cases hstop with
        | quote => exact .string hbody .quote
        | endOfText =>
            obtain rfl : other = [] := List.head?_eq_none_iff.1 hhead.symm
            exact .string hbody .endOfText
        | endOfTextInEscape =>
            obtain rfl : other = [] := List.head?_eq_none_iff.1 hhead.symm
            exact .string hbody .endOfTextInEscape

/-- After the first character of a text, anything may be replaced. -/
theorem MayReplace.append_left {text : List Char} (htext : text ≠ []) :
    MayReplace kinds (text ++ rest) (text ++ other) :=
  .of_head? (by rw [List.head?_append, List.head?_append, List.head?_eq_some_head htext]; rfl)

/-- A blank ends words and numbers, and is no slash. -/
theorem not_continues_of_blank {b : Char} (hblank : b ∈ [' ', '\t', '\r', '\n']) :
    Token.continuesIdentifier b = false ∧ b.isDigit = false ∧ b ≠ '/' := by
  simp only [List.mem_cons, List.not_mem_nil, or_false] at hblank
  rcases hblank with rfl | rfl | rfl | rfl <;> decide +kernel

/-- A text that cannot go on with a piece may stand in the place of any text that does not begin
with a line feed. -/
theorem MayReplace.of_not_continues {c : Char} (hc : c ≠ '\n')
    (hother : ∀ b ∈ other.head?,
      Token.continuesIdentifier b = false ∧ b.isDigit = false ∧ b ≠ '/') :
    MayReplace kinds (c :: rest) other := by
  constructor
  · rintro raw (hmem | hline | hline)
    · exact .blank hmem
    · exact absurd (hline.next_eq c rfl) hc
    · exact absurd (hline.next_eq c rfl) hc
  · rintro kind lexeme raw - hraw
    cases hraw with
    | mark hmark _ => exact .mark hmark fun _ b hb => (hother b hb).2.2
    | number hne hdigits _ => exact .number hne hdigits fun b hb => (hother b hb).2.1
    | word hfirst hothers _ hkind =>
        exact .word hfirst hothers (fun b hb => (hother b hb).1) hkind
    | string hbody hstop =>
        cases hstop
        exact .string hbody .quote

/-- A blank may stand before any text that does not begin with a line feed. -/
theorem MayReplace.blank {c b : Char} (hc : c ≠ '\n') (hblank : b ∈ [' ', '\t', '\r', '\n']) :
    MayReplace kinds (c :: rest) (b :: other) :=
  .of_not_continues hc fun next hnext => by
    obtain rfl : b = next := by simpa using hnext
    exact not_continues_of_blank hblank

/-- A text may end before any text that does not begin with a line feed. -/
theorem MayReplace.nil {c : Char} (hc : c ≠ '\n') : MayReplace kinds (c :: rest) [] :=
  .of_not_continues hc (by simp)

/-- A text may go on after its end with a new line, unless a literal was open there. -/
theorem MayReplace.newLine : MayReplace (· ≠ .string) [] ('\n' :: other) := by
  constructor
  · rintro raw (hmem | hline | hline)
    · exact .blank hmem
    · exact .directive ⟨hline.not_mem, by simp⟩
    · exact .comment ⟨hline.not_mem, by simp⟩
  · intro kind lexeme raw hkind hraw
    cases hraw with
    | mark hmark _ => exact .mark hmark fun _ => by simp
    | number hne hdigits _ => exact .number hne hdigits (by simp)
    | word hfirst hothers _ hword =>
        refine .word hfirst hothers ?_ hword
        simpa using (not_continues_of_blank (b := '\n') (by simp)).1
    | string _ _ => exact absurd rfl hkind

/-! ## Splittings in a row -/

theorem IsTrivia.ne_nil {raw : List Char} (htrivia : IsTrivia raw rest) : raw ≠ [] := by
  cases htrivia <;> simp

theorem IsRaw.ne_nil {kind : Token.Kind} {lexeme raw : List Char}
    (hraw : IsRaw kind lexeme raw rest) : raw ≠ [] := by
  cases hraw <;> simp_all

theorem covered_cons (piece : Piece) (pieces : List Piece) :
    Scan.covered (piece :: pieces) = piece.raw ++ Scan.covered pieces := rfl

theorem covered_append (pieces others : List Piece) :
    Scan.covered (pieces ++ others) = Scan.covered pieces ++ Scan.covered others :=
  List.flatMap_append

/-- Pieces cover no text only if there are none, and then there are no tokens. -/
theorem Splits.eq_nil_of_covered (hsplits : Splits offset pieces tokens rest)
    (hcovered : Scan.covered pieces = []) : tokens = [] := by
  cases hsplits with
  | nil => rfl
  | trivia htrivia _ => exact absurd (List.append_eq_nil_iff.1 hcovered).1 htrivia.ne_nil
  | token hraw _ => exact absurd (List.append_eq_nil_iff.1 hcovered).1 hraw.ne_nil

/-- A splitting before one text is a splitting before another one that may replace it after the
last piece. -/
theorem Splits.replace (hsplits : Splits offset pieces tokens rest)
    (hreplace : MayReplace kinds rest other) (hlast : ∀ token ∈ tokens.getLast?, kinds token.kind) :
    Splits offset pieces tokens other := by
  induction hsplits with
  | nil => exact .nil
  | @trivia offset raw pieces tokens rest htrivia hsplits ih =>
      refine .trivia ?_ (ih hreplace hlast)
      by_cases hcovered : Scan.covered pieces = []
      · rw [hcovered] at htrivia ⊢
        exact hreplace.trivia htrivia
      · have htext :
            MayReplace kinds (Scan.covered pieces ++ rest) (Scan.covered pieces ++ other) :=
          .append_left hcovered
        exact htext.trivia htrivia
  | @token offset kind lexeme raw pieces tokens rest hraw hsplits ih =>
      refine .token ?_ (ih hreplace fun token htoken => hlast token ?_)
      · by_cases hcovered : Scan.covered pieces = []
        · have htokens := hsplits.eq_nil_of_covered hcovered
          rw [hcovered] at hraw ⊢
          exact hreplace.raw (hlast _ (by rw [htokens]; rfl)) hraw
        · have htext : MayReplace (fun _ => True) (Scan.covered pieces ++ rest)
              (Scan.covered pieces ++ other) := .append_left hcovered
          exact htext.raw trivial hraw
      · rw [List.getLast?_cons, Option.mem_def.1 htoken]
        rfl

theorem Splits.append (hfirst : Splits offset pieces tokens (Scan.covered others ++ rest))
    (hsecond : Splits (offset + Text.byteLength (Scan.covered pieces)) others found rest) :
    Splits offset (pieces ++ others) (tokens ++ found) rest := by
  generalize hafter : Scan.covered others ++ rest = after at hfirst
  induction hfirst with
  | nil => exact hsecond
  | trivia htrivia _ ih =>
      subst hafter
      rw [covered_cons, Text.byteLength_append, ← Nat.add_assoc] at hsecond
      refine .trivia ?_ (ih hsecond rfl)
      show IsTrivia _ (Scan.covered (_ ++ others) ++ rest)
      rwa [covered_append, List.append_assoc]
  | token hraw _ ih =>
      subst hafter
      rw [covered_cons, Text.byteLength_append, ← Nat.add_assoc] at hsecond
      refine .token ?_ (ih hsecond rfl)
      show IsRaw _ _ _ (Scan.covered (_ ++ others) ++ rest)
      rwa [covered_append, List.append_assoc]

/-! ## The text before a token -/

/-- No token begins with a line feed. -/
theorem IsRaw.exists_cons {kind : Token.Kind} {lexeme raw : List Char}
    (hraw : IsRaw kind lexeme raw rest) : ∃ c body, raw = c :: body ∧ c ≠ '\n' := by
  have hfeed := not_continues_of_blank (b := '\n') (by simp)
  cases hraw with
  | @mark kind c _ hmark _ =>
      refine ⟨c, [], rfl, ?_⟩
      rintro rfl
      cases kind <;> simp [Token.Kind.mark?] at hmark
  | number hne hdigits _ =>
      obtain ⟨c, digits, rfl⟩ := List.exists_cons_of_ne_nil hne
      refine ⟨c, digits, rfl, ?_⟩
      rintro rfl
      simpa [hfeed] using hdigits '\n'
  | @word _ c others _ hfirst _ _ _ =>
      refine ⟨c, others, rfl, ?_⟩
      rintro rfl
      exact absurd hfirst (by decide +kernel)
  | string _ _ => exact ⟨_, _, rfl, by simp⟩

theorem byteLength_pos {text : List Char} (htext : text ≠ []) : 0 < Text.byteLength text := by
  obtain ⟨c, rest, rfl⟩ := List.exists_cons_of_ne_nil htext
  have hc := c.utf8Size_pos
  rw [Text.byteLength_cons]
  omega

/-- Where a token starts, the text is cut between two pieces.  The tokens of the pieces before it
start earlier, and the text from there on does not begin with a line feed. -/
theorem Splits.exists_of_mem {token : Token} (hsplits : Splits offset pieces tokens rest)
    (htoken : token ∈ tokens) :
    ∃ before found c after,
      Splits offset before found (c :: after) ∧
      Scan.covered before ++ c :: after = Scan.covered pieces ++ rest ∧
      token.offset = offset + Text.byteLength (Scan.covered before) ∧
      (∀ earlier ∈ found, earlier.offset < token.offset) ∧ c ≠ '\n' := by
  induction hsplits with
  | nil => simp at htoken
  | @trivia offset raw pieces tokens rest htrivia _ ih =>
      obtain ⟨before, found, c, after, hbefore, htext, hoffset, hearlier, hc⟩ := ih htoken
      refine ⟨.trivia raw :: before, found, c, after, .trivia (htext ▸ htrivia) hbefore, ?_, ?_,
        hearlier, hc⟩
      · rw [covered_cons, covered_cons, List.append_assoc, htext, List.append_assoc]
      · rw [hoffset, covered_cons, Text.byteLength_append, Nat.add_assoc]
        rfl
  | @token offset kind lexeme raw pieces tokens rest hraw _ ih =>
      rcases List.mem_cons.1 htoken with rfl | htoken
      · obtain ⟨c, body, rfl, hc⟩ := hraw.exists_cons
        exact ⟨[], [], c, body ++ (Scan.covered pieces ++ rest), .nil,
          by simp [Piece.raw, Scan.covered], rfl, by simp, hc⟩
      · obtain ⟨before, found, c, after, hbefore, htext, hoffset, hearlier, hc⟩ := ih htoken
        refine ⟨.lexeme kind raw :: before, _, c, after, .token (htext ▸ hraw) hbefore, ?_, ?_,
          List.forall_mem_cons.2 ⟨?_, hearlier⟩, hc⟩
        · rw [covered_cons, covered_cons, List.append_assoc, htext, List.append_assoc]
        · rw [hoffset, covered_cons, Text.byteLength_append, Nat.add_assoc]
          rfl
        · have hpos := byteLength_pos hraw.ne_nil
          show offset < token.offset
          omega

/-! ## Lexing a text after another one -/

theorem ofPieces_append (pieces others : List Piece) (offset : Nat) :
    Token.ofPieces offset (pieces ++ others) = Token.ofPieces offset pieces ++
      Token.ofPieces (offset + Text.byteLength (Scan.covered pieces)) others := by
  induction pieces generalizing offset with
  | nil => rfl
  | cons piece pieces ih =>
      rw [covered_cons, Text.byteLength_append, ← Nat.add_assoc]
      cases piece with
      | trivia raw => exact ih _
      | lexeme kind raw => exact congrArg (_ :: ·) (ih _)

/-- Pieces that begin later have the same tokens, later. -/
theorem ofPieces_add (pieces : List Piece) (offset distance : Nat) :
    Token.ofPieces (offset + distance) pieces =
      (Token.ofPieces offset pieces).map (Token.relocate (· + distance)) := by
  induction pieces generalizing offset with
  | nil => rfl
  | cons piece pieces ih =>
      cases piece with
      | trivia raw =>
          rw [Token.ofPieces, Token.ofPieces, Nat.add_right_comm]
          exact ih _
      | lexeme kind raw =>
          rw [Token.ofPieces, Token.ofPieces, Nat.add_right_comm, List.map_cons, ih]
          rfl

/-- After pieces, a text has the tokens or the error that it has by itself, later. -/
theorem Splits.lex_append (hsplits : Splits 0 pieces tokens rest) :
    Token.lex (String.ofList (Scan.covered pieces ++ rest)) =
      ((Token.lex (String.ofList rest)).mapError
        (LexError.relocate (· + Text.byteLength (Scan.covered pieces)))).map fun found =>
          tokens ++ found.map (Token.relocate (· + Text.byteLength (Scan.covered pieces))) := by
  obtain ⟨hscan, htokens⟩ := hsplits.ofText
  rw [Token.lex, Token.lex, String.toList_ofList, String.toList_ofList, hscan, ofPieces_append,
    ← htokens, ofPieces_add, Text.byteLength_append]
  cases hrest : (Scan.ofText rest).rest with
  | nil =>
      refine congrArg Except.ok ?_
      simp [Token.endAt, Token.relocate, Nat.add_comm]
  | cons c after =>
      refine congrArg Except.error ?_
      simp [LexError.relocate, covered_append, Nat.add_comm]

end TinyC.Lexical
