import TinyC.Token.Lexer

/-!
# The lexical rules

What trivia and raw text of tokens look like, each given the text that follows:

    trivia     = a blank  |  # stretch  |  // stretch
    mark       = one of ( ) { } ; , = + - * /
    number     = digits, and no digit follows
    word       = a letter or _, then letters, digits and _, and none of these follows
    string     = " characters and escapes "

A stretch goes up to the next line feed, which is not part of it, or to the end
of the text.  A slash is a mark only if no other slash follows.  A string that
is not closed ends with the text, and then its last character may be a backslash
that escapes nothing.

The rules say of a given stretch whether it is allowed; they do not search for
it.  That what a rule takes is as long as it can be is said by what must not
follow.
-/

namespace TinyC

/-- The mark with which a kind of token is written, if it is always the same one. -/
def Token.Kind.mark? : Token.Kind → Option Char
  | .leftParen => some '('
  | .rightParen => some ')'
  | .leftBrace => some '\x7b'
  | .rightBrace => some '\x7d'
  | .semicolon => some ';'
  | .comma => some ','
  | .assign => some '='
  | .plus => some '+'
  | .minus => some '-'
  | .star => some '*'
  | .slash => some '/'
  | _ => none

namespace Lexical

/-- The line goes on to the end of the body and not beyond. -/
structure EndsLine (body rest : List Char) : Prop where
  not_mem : '\n' ∉ body
  next_eq : ∀ c ∈ rest.head?, c = '\n'

/-- The raw text is trivia if the rest follows. -/
inductive IsTrivia : List Char → List Char → Prop
  | blank {c : Char} {rest : List Char} : c ∈ [' ', '\t', '\r', '\n'] → IsTrivia [c] rest
  | directive {body rest : List Char} : EndsLine body rest → IsTrivia ('#' :: body) rest
  | comment {body rest : List Char} : EndsLine body rest → IsTrivia ('/' :: '/' :: body) rest

/-- The text between quotes stands for the value. -/
inductive Denotes : List Char → List Char → Prop
  | nil : Denotes [] []
  | plain {c : Char} {body value : List Char} :
      c ≠ '"' → c ≠ '\\' → Denotes body value → Denotes (c :: body) (c :: value)
  | lineFeed {body value : List Char} :
      Denotes body value → Denotes ('\\' :: 'n' :: body) ('\n' :: value)
  | tab {body value : List Char} :
      Denotes body value → Denotes ('\\' :: 't' :: body) ('\t' :: value)
  | escaped {c : Char} {body value : List Char} :
      c ≠ 'n' → c ≠ 't' → Denotes body value → Denotes ('\\' :: c :: body) (c :: value)

/-- What ends a literal before the rest: a quote, or the end of the text, where a backslash may
stand alone. -/
inductive EndsLiteral : List Char → List Char → Prop
  | quote {rest : List Char} : EndsLiteral ['"'] rest
  | endOfText : EndsLiteral [] []
  | endOfTextInEscape : EndsLiteral ['\\'] []

/-- The kind of a word. -/
inductive IsWordKind : Token.Kind → List Char → Prop
  | int : IsWordKind .intKeyword ['i', 'n', 't']
  | return : IsWordKind .returnKeyword ['r', 'e', 't', 'u', 'r', 'n']
  | identifier {word : List Char} :
      word ≠ ['i', 'n', 't'] → word ≠ ['r', 'e', 't', 'u', 'r', 'n'] → IsWordKind .identifier word

/-- The raw text is that of a token with the kind and lexeme if the rest follows. -/
inductive IsRaw : Token.Kind → List Char → List Char → List Char → Prop
  | mark {kind : Token.Kind} {c : Char} {rest : List Char} :
      kind.mark? = some c → (c = '/' → ∀ next ∈ rest.head?, next ≠ '/') → IsRaw kind [c] [c] rest
  | number {digits rest : List Char} :
      digits ≠ [] → (∀ c ∈ digits, c.isDigit = true) → (∀ c ∈ rest.head?, c.isDigit = false) →
        IsRaw .number digits digits rest
  | word {kind : Token.Kind} {first : Char} {others rest : List Char} :
      Token.startsIdentifier first = true → (∀ c ∈ others, Token.continuesIdentifier c = true) →
        (∀ c ∈ rest.head?, Token.continuesIdentifier c = false) →
        IsWordKind kind (first :: others) → IsRaw kind (first :: others) (first :: others) rest
  | string {body value stop rest : List Char} :
      Denotes body value → EndsLiteral stop rest → IsRaw .string value ('"' :: (body ++ stop)) rest

/-- The text is one word, and no reserved one. -/
structure IsName (name : String) : Prop where
  starts : name.toList.head?.any Token.startsIdentifier = true
  continues : name.toList.tail.all Token.continuesIdentifier = true
  ne_int : name ≠ "int"
  ne_return : name ≠ "return"

instance (name : String) : Decidable (IsName name) :=
  decidable_of_iff
    (name.toList.head?.any Token.startsIdentifier = true ∧
      name.toList.tail.all Token.continuesIdentifier = true ∧ name ≠ "int" ∧ name ≠ "return")
    ⟨fun ⟨hstarts, hcontinues, hint, hreturn⟩ => ⟨hstarts, hcontinues, hint, hreturn⟩,
      fun ⟨hstarts, hcontinues, hint, hreturn⟩ => ⟨hstarts, hcontinues, hint, hreturn⟩⟩

/-- No rule starts with the character. -/
def StartsNothing (c : Char) : Prop :=
  ∀ body rest, ¬ IsTrivia (c :: body) rest ∧ ∀ kind lexeme, ¬ IsRaw kind lexeme (c :: body) rest

/-- The pieces in a row, with the rest after them, are trivia and the tokens, the first of them at
the given offset. -/
inductive Splits : Nat → List Piece → List Token → List Char → Prop
  | nil {offset : Nat} {rest : List Char} : Splits offset [] [] rest
  | trivia {offset : Nat} {raw : List Char} {pieces : List Piece} {tokens : List Token}
      {rest : List Char} :
      IsTrivia raw (Scan.covered pieces ++ rest) →
        Splits (offset + Text.byteLength raw) pieces tokens rest →
        Splits offset (.trivia raw :: pieces) tokens rest
  | token {offset : Nat} {kind : Token.Kind} {lexeme raw : List Char} {pieces : List Piece}
      {tokens : List Token} {rest : List Char} :
      IsRaw kind lexeme raw (Scan.covered pieces ++ rest) →
        Splits (offset + Text.byteLength raw) pieces tokens rest →
        Splits offset (.lexeme kind raw :: pieces) (⟨kind, String.ofList lexeme, offset⟩ :: tokens)
          rest

/-- The text is the pieces and the rest, and the pieces are trivia and the tokens. -/
structure IsSplitting (text : List Char) (pieces : List Piece) (tokens : List Token)
    (rest : List Char) : Prop where
  covers : Scan.covered pieces ++ rest = text
  splits : Splits 0 pieces tokens rest

end Lexical

end TinyC
