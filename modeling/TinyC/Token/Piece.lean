import TinyC.Text.Bytes
import TinyC.Text.Cursor
import TinyC.Token
import TinyC.Unicode.Alphabetic

/-!
# Pieces of text

A piece is trivia, which carries no meaning, or the raw text of one token.  The
first character of a text decides which rule takes a piece off it, and every
rule takes as much as it can.  `Piece.first?_eq_some` says that nothing is lost.
-/

namespace TinyC

/-! ## Character classes -/

namespace Token

/-- The characters that separate tokens. -/
def isBlank (c : Char) : Bool := c = ' ' || c = '\t' || c = '\r' || c = '\n'

/-- The characters that an identifier may begin with. -/
def startsIdentifier (c : Char) : Bool := Unicode.isAlphabetic c || c = '_'

/-- The characters that an identifier may go on with. -/
def continuesIdentifier (c : Char) : Bool := Unicode.isAlphanumeric c || c = '_'

/-- The kinds of the tokens that are one punctuation mark. -/
def punctuation? (c : Char) : Option Kind :=
  match c with
  | '(' => some .leftParen
  | ')' => some .rightParen
  | '\x7b' => some .leftBrace
  | '\x7d' => some .rightBrace
  | ';' => some .semicolon
  | ',' => some .comma
  | '=' => some .assign
  | '+' => some .plus
  | '-' => some .minus
  | '*' => some .star
  | '/' => some .slash
  | _ => none

/-! ## String literals -/

/-- The character that stands for an escaped one.  Unknown escapes keep it. -/
def unescape (c : Char) : Char :=
  if c = 'n' then '\n' else if c = 't' then '\t' else c

/-- The text after the first quote that no backslash escapes. -/
def afterLiteral : List Char → List Char
  | [] => []
  | '"' :: rest => rest
  | '\\' :: _ :: rest => afterLiteral rest
  | _ :: rest => afterLiteral rest

/-- The value of a literal, given by its text after the opening quote. -/
def literalValue : List Char → List Char
  | [] => []
  | '"' :: _ => []
  | ['\\'] => []
  | '\\' :: c :: rest => unescape c :: literalValue rest
  | c :: rest => c :: literalValue rest

theorem afterLiteral_suffix (text : List Char) : afterLiteral text <:+ text := by
  fun_induction afterLiteral text with
  | case1 => exact List.suffix_refl []
  | case2 rest => exact List.suffix_cons '"' rest
  | case3 c rest ih => exact (ih.trans (List.suffix_cons c rest)).trans (List.suffix_cons '\\' _)
  | case4 c rest _ _ ih => exact ih.trans (List.suffix_cons c rest)

end Token

/-! ## Pieces -/

/-- A stretch of text: trivia, or the raw text of a token. -/
inductive Piece
  | trivia (raw : List Char)
  | lexeme (kind : Token.Kind) (raw : List Char)

namespace Piece

/-- The text that a piece covers. -/
def raw : Piece → List Char
  | .trivia raw => raw
  | .lexeme _ raw => raw

/-- The kind of a word that is shaped like an identifier. -/
def wordKind (word : List Char) : Token.Kind :=
  (Token.Kind.ofKeyword? (String.ofList word)).getD .identifier

/-! ### What the first character begins

A rule gives the piece without its raw text, and the position where it ends.  The cursor stands
behind the first character.
-/

/-- The piece that is one character. -/
def single? (c : Char) : Option (List Char → Piece) :=
  if Token.isBlank c then some .trivia else (Token.punctuation? c).map .lexeme

/-- A literal, a number or a word, which goes on for as long as it can. -/
def stretch? (c : Char) (cursor : Cursor) : Option ((List Char → Piece) × Cursor) :=
  if c = '"' then some (.lexeme .string, ⟨Token.afterLiteral cursor.rest⟩)
  else if c.isDigit then some (.lexeme .number, cursor.skipUntil (!·.isDigit))
  else if Token.startsIdentifier c then
    some (fun word => .lexeme (wordKind word) word,
      cursor.skipUntil (!Token.continuesIdentifier ·))
  else none

/-- The piece that begins with a character, if there is a rule for it. -/
def rule? (c : Char) (cursor : Cursor) : Option ((List Char → Piece) × Cursor) :=
  if c = '#' then some (.trivia, cursor.skipUntil (· = '\n'))
  -- Two slashes begin a comment, so they are never punctuation.
  else if c = '/' && (cursor.eat '/').1 then
    some (.trivia, (cursor.eat '/').2.skipUntil (· = '\n'))
  else
    match single? c with
    | some piece => some (piece, cursor)
    | none => stretch? c cursor

/-- The first piece of a text and the text after it, if a rule starts with its first
character. -/
def first? (text : List Char) : Option (Piece × List Char) :=
  let start : Cursor := ⟨text⟩
  match start.next? with
  | (none, _) => none
  | (some c, cursor) =>
      (rule? c cursor).map fun (piece, stop) => (piece (start.upTo stop), stop.rest)

theorem raw_of_single? {c : Char} {piece : List Char → Piece} (hsingle : single? c = some piece)
    (text : List Char) : (piece text).raw = text := by
  unfold single? at hsingle
  split at hsingle
  · cases hsingle
    rfl
  · obtain ⟨kind, -, rfl⟩ := Option.map_eq_some_iff.1 hsingle
    rfl

theorem stretch?_eq_some {c : Char} {cursor stop : Cursor} {piece : List Char → Piece}
    (hstretch : stretch? c cursor = some (piece, stop)) :
    stop.rest <:+ cursor.rest ∧ ∀ text, (piece text).raw = text := by
  unfold stretch? at hstretch
  (repeat' split at hstretch) <;> cases hstretch
  · exact ⟨Token.afterLiteral_suffix _, fun _ => rfl⟩
  · exact ⟨cursor.skipUntil_suffix _, fun _ => rfl⟩
  · exact ⟨cursor.skipUntil_suffix _, fun _ => rfl⟩

/-- A rule does not go back, and puts the text it is given into the piece. -/
theorem rule?_eq_some {c : Char} {cursor stop : Cursor} {piece : List Char → Piece}
    (hrule : rule? c cursor = some (piece, stop)) :
    stop.rest <:+ cursor.rest ∧ ∀ text, (piece text).raw = text := by
  unfold rule? at hrule
  split at hrule
  · cases hrule
    exact ⟨cursor.skipUntil_suffix _, fun _ => rfl⟩
  · split at hrule
    · cases hrule
      exact ⟨(Cursor.skipUntil_suffix _ _).trans (cursor.eat_suffix '/'), fun _ => rfl⟩
    · split at hrule
      · rename_i hsingle
        cases hrule
        exact ⟨List.suffix_refl _, raw_of_single? hsingle⟩
      · exact stretch?_eq_some hrule

/-- The first piece is its first character with the run of characters that the rule for it
passes. -/
theorem first?_eq_some_iff_rule {text rest : List Char} {piece : Piece} :
    first? text = some (piece, rest) ↔
      ∃ c run make, text = c :: (run ++ rest) ∧ rule? c ⟨run ++ rest⟩ = some (make, ⟨rest⟩) ∧
        piece = make (c :: run) := by
  constructor
  · intro hfirst
    cases text with
    | nil => simp [first?, Cursor.next?] at hfirst
    | cons c after =>
        simp only [first?, Cursor.next?, Option.map_eq_some_iff, Prod.mk.injEq] at hfirst
        obtain ⟨⟨make, stop⟩, hrule, rfl, rfl⟩ := hfirst
        obtain ⟨run, rfl⟩ := (rule?_eq_some hrule).1
        refine ⟨c, run, make, rfl, hrule, ?_⟩
        rw [← Cursor.upTo_append (c :: run) stop.rest, List.cons_append]
  · rintro ⟨c, run, make, rfl, hrule, rfl⟩
    have hupTo := Cursor.upTo_append (c :: run) rest
    rw [List.cons_append] at hupTo
    simp [first?, Cursor.next?, hrule, hupTo]

/-- Taking a piece off a text loses nothing, and no piece is empty. -/
theorem first?_eq_some {text rest : List Char} {piece : Piece}
    (hfirst : first? text = some (piece, rest)) :
    piece.raw ++ rest = text ∧ piece.raw ≠ [] := by
  obtain ⟨c, run, make, rfl, hrule, rfl⟩ := first?_eq_some_iff_rule.1 hfirst
  rw [(rule?_eq_some hrule).2]
  exact ⟨rfl, List.cons_ne_nil c run⟩

theorem length_lt_of_first? {text rest : List Char} {piece : Piece}
    (hfirst : first? text = some (piece, rest)) : rest.length < text.length := by
  obtain ⟨happend, hne⟩ := first?_eq_some hfirst
  have hlength := congrArg List.length happend
  have hpos := List.length_pos_iff.2 hne
  simp only [List.length_append] at hlength
  omega

/-- The value under which the raw text of a token is known. -/
def lexemeValue (kind : Token.Kind) (raw : List Char) : String :=
  String.ofList (if kind = .string then Token.literalValue raw.tail else raw)

end Piece

end TinyC
