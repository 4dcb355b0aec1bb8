import TinyC.Proofs.Collected
import TinyC.Proofs.Grammar

/-!
# Source text of a program

Every program can be written down: its words in a row, with one blank between
each two.  Parentheses are written only where the tree would be another one
without them: around the right operand of an operator if its own operator does
not bind tighter, and around the left operand if its own operator binds looser.
In string literals only backslashes and quotes are escaped.
-/

namespace TinyC

/-! ## Words -/

/-- A word without its place in a text. -/
structure Word where
  kind : Token.Kind
  lexeme : String
  deriving DecidableEq, Repr

/-- The word that a token is. -/
def Token.word (token : Token) : Word := ⟨token.kind, token.lexeme⟩

namespace Word

/-- A text as it stands between quotes. -/
def escape (text : List Char) : List Char :=
  text.flatMap fun c => if c = '\\' ∨ c = '"' then ['\\', c] else [c]

/-- The text of a word in a source. -/
def raw (word : Word) : List Char :=
  match word.kind with
  | .string => '"' :: (escape word.lexeme.toList ++ ['"'])
  | _ => word.lexeme.toList

theorem raw_of_ne_string {word : Word} (hkind : word.kind ≠ .string) :
    word.raw = word.lexeme.toList := by
  unfold raw
  split
  · exact absurd (by assumption) hkind
  · rfl

/-- The words in a row, with a blank between each two. -/
def line (words : List Word) : List Char := [' '].intercalate (words.map raw)

end Word

/-! ## Words of a program -/

/-- The word for an operator. -/
def Operator.word (operator : Operator) : Word := ⟨operator.kind, operator.sign⟩

namespace Expr

/-- Whether a left operand needs parentheses: its operator is looser. -/
def needsParensLeft (operator : Operator) : Expr → Bool
  | .binary inner _ _ => inner.isTight < operator.isTight
  | _ => false

/-- Whether a right operand needs parentheses: its operator is not tighter. -/
def needsParensRight (operator : Operator) : Expr → Bool
  | .binary inner _ _ => inner.isTight ≤ operator.isTight
  | _ => false

/-- The words, between parentheses if they need them. -/
def grouped (parens : Bool) (words : List Word) : List Word :=
  if parens then ⟨.leftParen, "("⟩ :: (words ++ [⟨.rightParen, ")"⟩]) else words

mutual

/-- The words of an expression. -/
def words : Expr → List Word
  | .number value => [⟨.number, Numeral.ofInt value.toInt⟩]
  | .name identifier => [⟨.identifier, identifier⟩]
  | .string value => [⟨.string, value⟩]
  | .binary operator left right =>
      grouped (left.needsParensLeft operator) left.words ++
        operator.word :: grouped (right.needsParensRight operator) right.words
  | .call function arguments =>
      ⟨.identifier, function⟩ :: ⟨.leftParen, "("⟩ ::
        (argumentWords arguments ++ [⟨.rightParen, ")"⟩])

/-- The words of arguments, with a comma between each two. -/
def argumentWords : List Expr → List Word
  | [] => []
  | [argument] => argument.words
  | argument :: rest => argument.words ++ ⟨.comma, ","⟩ :: argumentWords rest

end

mutual

/-- The names in an expression, of variables and of functions. -/
def names : Expr → List String
  | .number _ | .string _ => []
  | .name identifier => [identifier]
  | .binary _ left right => left.names ++ right.names
  | .call function arguments => function :: namesOfAll arguments

/-- The names in all of the expressions. -/
def namesOfAll : List Expr → List String
  | [] => []
  | argument :: rest => argument.names ++ namesOfAll rest

end

/-- The name that an expression holds itself. -/
def name? : Expr → Option String
  | .name identifier => some identifier
  | .call function _ => some function
  | .number _ | .string _ | .binary _ _ _ => none

theorem isCollected_names :
    IsCollected operands (fun expression => expression.name?.toList) names namesOfAll where
  node expression := by cases expression <;> simp [names, namesOfAll, operands, name?]
  nil := rfl
  cons _ _ := rfl

mutual

/-- The numbers in an expression. -/
def numbers : Expr → List Int64
  | .name _ | .string _ => []
  | .number value => [value]
  | .binary _ left right => left.numbers ++ right.numbers
  | .call _ arguments => numbersOfAll arguments

/-- The numbers in all of the expressions. -/
def numbersOfAll : List Expr → List Int64
  | [] => []
  | argument :: rest => argument.numbers ++ numbersOfAll rest

end

/-- The number that an expression is. -/
def number? : Expr → Option Int64
  | .number value => some value
  | .name _ | .string _ | .binary _ _ _ | .call _ _ => none

theorem isCollected_numbers :
    IsCollected operands (fun expression => expression.number?.toList) numbers numbersOfAll where
  node expression := by cases expression <;> simp [numbers, numbersOfAll, operands, number?]
  nil := rfl
  cons _ _ := rfl

end Expr

namespace Stmt

/-- The words of a statement. -/
def words : Stmt → List Word
  | .declare name none => [⟨.intKeyword, "int"⟩, ⟨.identifier, name⟩, ⟨.semicolon, ";"⟩]
  | .declare name (some init) =>
      ⟨.intKeyword, "int"⟩ :: ⟨.identifier, name⟩ :: ⟨.assign, "="⟩ ::
        (init.words ++ [⟨.semicolon, ";"⟩])
  | .assign name value =>
      ⟨.identifier, name⟩ :: ⟨.assign, "="⟩ :: (value.words ++ [⟨.semicolon, ";"⟩])
  | .returns none => [⟨.returnKeyword, "return"⟩, ⟨.semicolon, ";"⟩]
  | .returns (some value) => ⟨.returnKeyword, "return"⟩ :: (value.words ++ [⟨.semicolon, ";"⟩])
  | .evaluate expression => expression.words ++ [⟨.semicolon, ";"⟩]

/-- The names in a statement. -/
def names : Stmt → List String
  | .declare name init => name :: init.toList.flatMap Expr.names
  | .assign name value => name :: value.names
  | .returns value => value.toList.flatMap Expr.names
  | .evaluate expression => expression.names

end Stmt

namespace Function

/-- The words of a function. -/
def words (function : Function) : List Word :=
  ⟨.intKeyword, "int"⟩ :: ⟨.identifier, function.name⟩ :: ⟨.leftParen, "("⟩ ::
    ⟨.rightParen, ")"⟩ :: ⟨.leftBrace, "\x7b"⟩ ::
      (function.body.flatMap Stmt.words ++ [⟨.rightBrace, "\x7d"⟩])

/-- The names in a function, its own among them. -/
def names (function : Function) : List String :=
  function.name :: function.body.flatMap Stmt.names

end Function

namespace Program

/-- The words of a program. -/
def words (program : Program) : List Word := program.functions.flatMap Function.words

/-- The names in a program. -/
def names (program : Program) : List String := program.functions.flatMap Function.names

/-- The numbers in a program. -/
def numbers (program : Program) : List Int64 := program.expressions.flatMap Expr.numbers

/-- The source text of a program. -/
def sourceText (program : Program) : String := String.ofList (Word.line program.words)

end Program

end TinyC
