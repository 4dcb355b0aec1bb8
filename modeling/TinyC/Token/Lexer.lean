import TinyC.Text.Quoted
import TinyC.Token.Piece

/-!
# From text to tokens

A text is cut into pieces from left to right until no rule applies.  What is
left then is empty, or begins with a character that starts no piece, and that is
the only way in which lexing fails.
-/

namespace TinyC

/-! ## Whole texts -/

/-- The pieces of a text, and the rest to which no rule applies. -/
structure Scan where
  pieces : List Piece
  rest : List Char

namespace Scan

/-- Takes pieces off a text for as long as a rule applies. -/
def ofText (text : List Char) : Scan :=
  match _hfirst : Piece.first? text with
  | none => ⟨[], text⟩
  | some (piece, rest) =>
      let scan := ofText rest
      ⟨piece :: scan.pieces, scan.rest⟩
termination_by text.length
decreasing_by exact Piece.length_lt_of_first? _hfirst

/-- The text of pieces in a row. -/
def covered (pieces : List Piece) : List Char := pieces.flatMap Piece.raw

/-- The pieces and the rest together are the text. -/
theorem covered_append_rest (text : List Char) :
    covered (ofText text).pieces ++ (ofText text).rest = text := by
  fun_induction ofText text with
  | case1 text hfirst => simp [covered]
  | case2 text piece rest hfirst scan ih =>
      obtain ⟨happend, _⟩ := Piece.first?_eq_some hfirst
      simp only [covered, List.flatMap_cons, List.append_assoc] at ih ⊢
      rw [ih, happend]

/-- No rule applies to the rest. -/
theorem first?_rest (text : List Char) : Piece.first? (ofText text).rest = none := by
  fun_induction ofText text with
  | case1 text hfirst => exact hfirst
  | case2 text piece rest hfirst scan ih => exact ih

end Scan

/-! ## Tokens -/

/-- A character that starts no token stands at a byte offset. -/
structure LexError where
  character : Char
  offset : Nat
  deriving DecidableEq, Repr

namespace LexError

/-- The message of the error without its place. -/
def reason (error : LexError) : String := "unexpected character " ++ Quoted.character error.character

/-- The message of the error. -/
def message (error : LexError) : String :=
  error.reason ++ " at offset " ++ Numeral.ofNat error.offset

/-- The bytes of the unexpected character. -/
def span (error : LexError) : Span :=
  ⟨error.offset, error.offset + error.character.utf8Size⟩

end LexError

namespace Token

/-- The tokens among pieces that begin at an offset. -/
def ofPieces (offset : Nat) : List Piece → List Token
  | [] => []
  | .trivia raw :: rest => ofPieces (offset + Text.byteLength raw) rest
  | .lexeme kind raw :: rest =>
      ⟨kind, Piece.lexemeValue kind raw, offset⟩ ::
        ofPieces (offset + Text.byteLength raw) rest

/-- The tokens of a text, with the end of input as the last. -/
def lex (source : String) : Except LexError (List Token) :=
  let text := source.toList
  let scan := Scan.ofText text
  match scan.rest with
  | [] => .ok (ofPieces 0 scan.pieces ++ [endAt (Text.byteLength text)])
  | c :: _ => .error ⟨c, Text.byteLength (Scan.covered scan.pieces)⟩

end Token

end TinyC
