import TinyC.Token

/-!
# Expectations

What the grammar expects at a token that does not fit, and the error that says
so.
-/

namespace TinyC

/-- The place at which a particular kind of token is missing. -/
inductive Place
  | startOfFunction
  | endOfBody
  | afterDeclaration
  | afterReturn
  | afterAssignment
  | afterExpression
  | afterArguments
  deriving DecidableEq, Repr

/-- The wording of a place. -/
def Place.text : Place → String
  | .startOfFunction => "at the start of a function"
  | .endOfBody => "at the end of the function body"
  | .afterDeclaration => "after a declaration"
  | .afterReturn => "after a return statement"
  | .afterAssignment => "after an assignment"
  | .afterExpression => "after an expression"
  | .afterArguments => "after call arguments"

/-- The largest height of an expression, and the largest number of open nestings. -/
def heightLimit : Nat := 256

/-- How high expressions may be, and how many nestings may be open at once: at least one of
each, or no expression could be read. -/
structure Limits where
  height : Nat
  nesting : Nat
  height_pos : 0 < height
  nesting_pos : 0 < nesting

/-- The limits of the language. -/
def Limits.standard : Limits := ⟨heightLimit, heightLimit, by decide, by decide⟩

/-- What a rule expects where the words do not fit. -/
inductive Expectation
  | token (kind : Token.Kind)
  | tokenAt (kind : Token.Kind) (place : Place)
  | functionName
  | variableName
  | expression
  | integerThatFits
  | lowerExpression
  deriving DecidableEq, Repr

/-- The wording of an expectation. -/
def Expectation.text : Expectation → String
  | .token kind => kind.description
  | .tokenAt kind place => kind.description ++ " " ++ place.text
  | .functionName => "a function name"
  | .variableName => "a variable name"
  | .expression => "an expression"
  | .integerThatFits => "an integer literal that fits in 64 bits"
  | .lowerExpression =>
      "an expression nested at most " ++ Numeral.ofNat heightLimit ++ " levels deep"

/-- A program was not read to its end: what was expected, and the token found instead. -/
structure SyntaxError where
  expected : Expectation
  found : Token
  deriving DecidableEq, Repr

/-- The message of the error. -/
def SyntaxError.message (error : SyntaxError) : String :=
  "expected " ++ error.expected.text ++ ", found " ++ error.found.summary

end TinyC
