import TinyC.Span
import TinyC.Text.Bytes
import TinyC.Text.Numeral

/-!
# Tokens

The words of the language: their kinds, the names under which kinds are shown,
and the place of a token in its source.
-/

namespace TinyC

/-- The kinds of tokens. -/
inductive Token.Kind
  | intKeyword
  | identifier
  | number
  | string
  | leftParen
  | rightParen
  | leftBrace
  | rightBrace
  | semicolon
  | comma
  | assign
  | plus
  | minus
  | star
  | slash
  | returnKeyword
  | endOfInput
  deriving DecidableEq, Repr

namespace Token.Kind

/-- Every kind once. -/
def all : List Kind :=
  [.intKeyword, .identifier, .number, .string, .leftParen, .rightParen, .leftBrace, .rightBrace,
    .semicolon, .comma, .assign, .plus, .minus, .star, .slash, .returnKeyword, .endOfInput]

/-- The name of a kind in a list of tokens. -/
def name : Kind → String
  | .intKeyword => "INT"
  | .identifier => "IDENT"
  | .number => "NUMBER"
  | .string => "STRING"
  | .leftParen => "LPAREN"
  | .rightParen => "RPAREN"
  | .leftBrace => "LBRACE"
  | .rightBrace => "RBRACE"
  | .semicolon => "SEMICOLON"
  | .comma => "COMMA"
  | .assign => "ASSIGN"
  | .plus => "PLUS"
  | .minus => "MINUS"
  | .star => "STAR"
  | .slash => "SLASH"
  | .returnKeyword => "RETURN"
  | .endOfInput => "EOF"

/-- The description of a kind in a message. -/
def description : Kind → String
  | .intKeyword => "keyword `int`"
  | .identifier => "identifier"
  | .number => "integer literal"
  | .string => "string literal"
  | .leftParen => "`(`"
  | .rightParen => "`)`"
  | .leftBrace => "`\x7b`"
  | .rightBrace => "`\x7d`"
  | .semicolon => "`;`"
  | .comma => "`,`"
  | .assign => "`=`"
  | .plus => "`+`"
  | .minus => "`-`"
  | .star => "`*`"
  | .slash => "`/`"
  | .returnKeyword => "keyword `return`"
  | .endOfInput => "end of input"

/-- The kind with the given name. -/
def ofName? (name : String) : Option Kind := all.find? fun kind => kind.name = name

/-- The kind of a word that is reserved. -/
def ofKeyword? (word : String) : Option Kind :=
  if word = "int" then some .intKeyword
  else if word = "return" then some .returnKeyword
  else none

theorem mem_all (kind : Kind) : kind ∈ all := by
  cases kind <;> decide

end Token.Kind

/-- A word of the source.  The lexeme is its text, or for a string literal its value; the offset
is the byte at which it starts. -/
structure Token where
  kind : Token.Kind
  lexeme : String
  offset : Nat
  deriving DecidableEq, Repr

namespace Token

/-- The token that stands for the end of a text. -/
def endAt (offset : Nat) : Token := ⟨.endOfInput, "", offset⟩

/-- The stretch of the source to point at.  Of a string literal this is the opening quote alone,
since its lexeme does not tell how long it is in the source. -/
def span (token : Token) : Span :=
  let length :=
    match token.kind with
    | .string => 1
    | _ => Text.byteLength token.lexeme.toList
  ⟨token.offset, token.offset + length⟩

/-- The form of a token in a list of tokens. -/
def text (token : Token) : String :=
  "Token(" ++ token.kind.name ++ ", '" ++ token.lexeme ++ "', pos=" ++
    Numeral.ofNat token.offset ++ ")"

/-- The form of a token in a message. -/
def summary (token : Token) : String :=
  token.kind.name ++ " '" ++ token.lexeme ++ "' at offset " ++ Numeral.ofNat token.offset

/-- A list of tokens, one after another on lines of their own. -/
def dump (tokens : List Token) : String := "\n".intercalate (tokens.map text)

end Token

end TinyC
