import TinyC.Proofs.Grammar.ViablePrefix
import TinyC.Proofs.Lexical.Composition
import TinyC.Session

/-!
# Where an error is in a text

An error in a text points at a character that starts nothing, at the lexeme of a
token, at the opening quote of a literal, or at nothing behind the end.  What it
points at stands in the text at the offset of the error, and is on one line.
-/

namespace TinyC

open Lexical

namespace SourceError

/-- The byte offset at which the error is. -/
def offset : SourceError → Nat
  | .lex error => error.offset
  | .grammar error => error.found.offset

/-- The text at which the error points. -/
def pointed : SourceError → List Char
  | .lex error => [error.character]
  | .grammar error =>
      match error.found.kind with
      | .string => ['"']
      | .endOfInput => []
      | _ => error.found.lexeme.toList

/-- The span with which the error is reported. -/
def span : SourceError → Span
  | .lex error => error.span
  | .grammar error => error.found.span

/-- What the error points at is in the text at its span, and has no end of a line in it. -/
structure IsAt (error : SourceError) (text head rest : List Char) : Prop where
  text_eq : text = head ++ (error.pointed ++ rest)
  offset_eq : Text.byteLength head = error.offset
  span_eq : error.span = ⟨error.offset, error.offset + Text.byteLength error.pointed⟩
  not_ends : ∀ c ∈ error.pointed, c ≠ '\n' ∧ c ≠ '\r'

end SourceError

namespace Lexical

variable {offset : Nat} {pieces : List Piece} {tokens : List Token} {rest : List Char}

/-- A token stands in the text at its offset. -/
theorem Splits.exists_isRaw_of_mem {token : Token} (hsplits : Splits offset pieces tokens rest)
    (htoken : token ∈ tokens) :
    ∃ head raw after, Scan.covered pieces ++ rest = head ++ (raw ++ after) ∧
      token.offset = offset + Text.byteLength head ∧
      IsRaw token.kind token.lexeme.toList raw after := by
  induction hsplits with
  | nil => simp at htoken
  | @trivia offset raw pieces tokens rest htrivia _ ih =>
      obtain ⟨head, lexeme, after, htext, hoffset, hraw⟩ := ih htoken
      refine ⟨raw ++ head, lexeme, after, ?_, ?_, hraw⟩
      · rw [covered_cons, List.append_assoc, htext, List.append_assoc]
        rfl
      · rw [hoffset, Text.byteLength_append, Nat.add_assoc]
  | @token offset kind lexeme raw pieces tokens rest hraw _ ih =>
      rcases List.mem_cons.1 htoken with rfl | htoken
      · refine ⟨[], raw, Scan.covered pieces ++ rest, ?_, rfl, ?_⟩
        · rw [covered_cons, List.append_assoc]
          rfl
        · rwa [String.toList_ofList]
      · obtain ⟨head, found, after, htext, hoffset, hfound⟩ := ih htoken
        refine ⟨raw ++ head, found, after, ?_, ?_, hfound⟩
        · rw [covered_cons, List.append_assoc, htext, List.append_assoc]
          rfl
        · rw [hoffset, Text.byteLength_append, Nat.add_assoc]

/-- A token other than a literal has its raw text as the lexeme, and no blank is in it. -/
theorem IsRaw.of_ne_string {kind : Token.Kind} {lexeme raw after : List Char}
    (hraw : IsRaw kind lexeme raw after) (hkind : kind ≠ .string) :
    raw = lexeme ∧ ∀ c ∈ raw, c ∉ [' ', '\t', '\r', '\n'] := by
  cases hraw with
  | @mark _ c _ hmark _ =>
      refine ⟨rfl, fun other hother => ?_⟩
      obtain rfl := List.mem_singleton.1 hother
      cases kind <;> simp [Token.Kind.mark?] at hmark <;> subst hmark <;> decide
  | number _ hdigits _ =>
      refine ⟨rfl, fun c hc hblank => ?_⟩
      have hdigit := hdigits c hc
      rw [(not_continues_of_blank hblank).2.1] at hdigit
      cases hdigit
  | word hfirst hothers _ _ =>
      refine ⟨rfl, fun c hc hblank => ?_⟩
      have hcontinues : Token.continuesIdentifier c = true := by
        rcases List.mem_cons.1 hc with rfl | hc
        · exact continuesIdentifier_of_starts hfirst
        · exact hothers c hc
      rw [(not_continues_of_blank hblank).1] at hcontinues
      cases hcontinues
  | string _ _ => exact absurd rfl hkind

theorem IsRaw.of_string {lexeme raw after : List Char} (hraw : IsRaw .string lexeme raw after) :
    ∃ others, raw = '"' :: others := by
  cases hraw with
  | mark hmark _ => simp [Token.Kind.mark?] at hmark
  | word _ _ _ hword => cases hword
  | string _ _ => exact ⟨_, rfl⟩

end Lexical

namespace SourceError

variable {text : String}

/-- A character that starts no token is in the text where the error says. -/
theorem exists_isAt_of_lex {error : LexError} (hlex : Token.lex text = .error error) :
    ∃ head rest, IsAt (.lex error) text.toList head rest := by
  have htext := Scan.covered_append_rest text.toList
  have hnone := Scan.first?_rest text.toList
  rw [Token.lex] at hlex
  cases hrest : (Scan.ofText text.toList).rest with
  | nil => simp [hrest] at hlex
  | cons c rest =>
      rw [hrest] at htext hnone
      simp only [hrest] at hlex
      obtain rfl := Except.error.inj hlex
      have hspecial := (first?_eq_none_iff.1 hnone).1
      refine ⟨_, rest, htext.symm, rfl, rfl, fun other hother => ?_⟩
      obtain rfl := List.mem_singleton.1 hother
      constructor
      · rintro rfl
        exact hspecial (by decide)
      · rintro rfl
        exact hspecial (by decide)

/-- A token that stands in the text is where the error points. -/
theorem exists_isAt_of_isRaw {error : SyntaxError} {chars head raw after : List Char}
    (htext : chars = head ++ (raw ++ after)) (hoffset : error.found.offset = Text.byteLength head)
    (hraw : IsRaw error.found.kind error.found.lexeme.toList raw after) :
    ∃ rest, IsAt (.grammar error) chars head rest := by
  by_cases hkind : error.found.kind = .string
  · have hpointed : pointed (.grammar error) = ['"'] := by rw [pointed, hkind]
    rw [hkind] at hraw
    obtain ⟨others, rfl⟩ := hraw.of_string
    have hspan : error.found.span = ⟨error.found.offset, error.found.offset + 1⟩ := by
      rw [Token.span, hkind]
    refine ⟨others ++ after, by simp [hpointed, htext], hoffset.symm, ?_, by simp [hpointed]⟩
    rw [hpointed, span, hspan]
    rfl
  · have hpointed : pointed (.grammar error) = error.found.lexeme.toList := by
      have hend := hraw.ne_endOfInput
      rw [pointed]
      split <;> simp_all
    obtain ⟨rfl, hblank⟩ := hraw.of_ne_string hkind
    have hspan : error.found.span = ⟨error.found.offset,
        error.found.offset + Text.byteLength error.found.lexeme.toList⟩ := by
      rw [Token.span]
      split
      · contradiction
      · rfl
    refine ⟨after, by rw [hpointed, htext], hoffset.symm, ?_, fun c hc => ?_⟩
    · rw [hpointed, span, hspan]
      rfl
    · have hc := hblank c (hpointed ▸ hc)
      simp only [List.mem_cons, List.not_mem_nil, or_false, not_or] at hc
      exact ⟨hc.2.2.2, hc.2.2.1⟩

/-- The end of a text is behind all of it. -/
theorem isAt_of_endAt {error : SyntaxError} {chars : List Char}
    (hfound : error.found = .endAt (Text.byteLength chars)) :
    IsAt (.grammar error) chars chars [] := by
  have hpointed : pointed (.grammar error) = [] := by rw [pointed, hfound]; rfl
  refine ⟨by simp [hpointed], ?_, ?_, by simp [hpointed]⟩
  · rw [offset, hfound]
    rfl
  · rw [hpointed, span, offset, hfound]
    rfl

/-- A token that does not fit is one of the text, or the end of it. -/
theorem found_mem_of_error {found : List Token} {offset : Nat} {error : SyntaxError}
    (herror : Program.ofTokens (found ++ [.endAt offset]) = .error error) :
    error.found ∈ found ++ [.endAt offset] := by
  obtain ⟨words, hread, hfound⟩ := Grammar.exists_failure_of_error herror
  obtain ⟨taken, hwords, -⟩ := Grammar.exists_isViable_of_failure hread
  obtain ⟨⟨others, htokens⟩, -⟩ := Grammar.withEnd_eq_of_words hwords hfound
  have hend : Grammar.withEnd (found ++ [.endAt offset]) = found ++ [.endAt offset] := by
    rw [Grammar.withEnd, if_pos]
    simp [Token.endAt]
  rw [← hend, htokens]
  simp

/-- A token that does not fit is in the text where it says, or is the end of the text. -/
theorem exists_isAt_of_grammar {tokens : List Token} {error : SyntaxError}
    (hlex : Token.lex text = .ok tokens) (herror : Program.ofTokens tokens = .error error) :
    ∃ head rest, IsAt (.grammar error) text.toList head rest := by
  obtain ⟨pieces, found, hsplitting, rfl⟩ := exists_isSplitting hlex
  rcases List.mem_append.1 (found_mem_of_error herror) with hmem | hmem
  · obtain ⟨head, raw, after, htext, hoffset, hraw⟩ := hsplitting.splits.exists_isRaw_of_mem hmem
    rw [hsplitting.covers] at htext
    rw [Nat.zero_add] at hoffset
    exact ⟨head, exists_isAt_of_isRaw htext hoffset hraw⟩
  · exact ⟨text.toList, [], isAt_of_endAt (List.mem_singleton.1 hmem)⟩

/-- Every error in a text is at a place in it. -/
theorem exists_isAt {error : SourceError} (herror : Program.ofText text = .error error) :
    ∃ head rest, error.IsAt text.toList head rest := by
  rw [Program.ofText] at herror
  cases hlex : Token.lex text with
  | error unexpected =>
      rw [hlex] at herror
      obtain rfl := Except.error.inj herror
      exact exists_isAt_of_lex hlex
  | ok tokens =>
      rw [hlex] at herror
      dsimp only at herror
      cases hread : Program.ofTokens tokens with
      | ok program => rw [hread] at herror; cases herror
      | error unmet =>
          rw [hread] at herror
          obtain rfl := Except.error.inj herror
          exact exists_isAt_of_grammar hlex hread

end SourceError

end TinyC
