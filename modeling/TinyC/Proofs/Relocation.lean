import TinyC.Session

/-!
# Other places

What stands at an offset of a text stands at another one of a changed text.  A
move says where, and it takes tokens and errors along; nothing else about them
changes.
-/

namespace TinyC

/-- The token at another offset. -/
def Token.relocate (move : Nat → Nat) (token : Token) : Token :=
  { token with offset := move token.offset }

@[simp] theorem Token.kind_relocate (move : Nat → Nat) (token : Token) :
    (token.relocate move).kind = token.kind := rfl

@[simp] theorem Token.lexeme_relocate (move : Nat → Nat) (token : Token) :
    (token.relocate move).lexeme = token.lexeme := rfl

@[simp] theorem Token.offset_relocate (move : Nat → Nat) (token : Token) :
    (token.relocate move).offset = move token.offset := rfl

/-- The error at another offset. -/
def LexError.relocate (move : Nat → Nat) (error : LexError) : LexError :=
  { error with offset := move error.offset }

/-- The error with the token that was found at another offset. -/
def SyntaxError.relocate (move : Nat → Nat) (error : SyntaxError) : SyntaxError :=
  { error with found := error.found.relocate move }

/-- The error at another place of the text. -/
def SourceError.relocate (move : Nat → Nat) : SourceError → SourceError
  | .lex error => .lex (error.relocate move)
  | .grammar error => .grammar (error.relocate move)

end TinyC
