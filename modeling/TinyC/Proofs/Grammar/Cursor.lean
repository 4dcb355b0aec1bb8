import TinyC.Proofs.Grammar.ViablePrefix

/-!
# Reading with a cursor

The grammar read over tokens that stay where they are, by a cursor that moves
from one to the next.  A token and the one after it can be looked at; behind the
last token there is only the last one to be seen.  The nestings that are open are
counted on the way in and on the way out.

The rules call each other, and loops are rules that call themselves.  That this
comes to an end is not built in: what goes on for ever, and what looks where no
token is, has no outcome at all.
-/

namespace TinyC.Syntax.Cursor

/-! ## Steps -/

/-- Where the cursor is, and how many nestings are open. -/
structure State where
  cursor : Nat
  nesting : Nat
  deriving DecidableEq, Repr

/-- What is done in a state: it gives a value or an error, and the state after it. -/
abbrev Steps (α : Type) := ExceptT SyntaxError (StateT State Option) α

/-- The tokens to read, and the limits within which expressions are accepted. -/
structure Input where
  tokens : List Token
  limits : Limits

/-- The layers of operators. -/
inductive Layer
  | additive
  | multiplicative
  deriving DecidableEq, Repr

/-- The operators of a layer. -/
def Layer.operator? : Layer → Token.Kind → Option Operator
  | .additive => additive?
  | .multiplicative => multiplicative?

namespace Input

section

variable (input : Input)

/-- Looks at the token that is the given number of places ahead. -/
def peek (ahead : Nat) : Steps Token := fun state =>
  (input.tokens[min (state.cursor + ahead) (input.tokens.length - 1)]?).map fun token =>
    (.ok token, state)

/-- Takes the current token.  An end of input is never left. -/
def next : Steps Token := do
  let token ← input.peek 0
  if token.kind ≠ .endOfInput then
    modify fun state => { state with cursor := state.cursor + 1 }
  return token

/-- Whether the current token is of the given kind. -/
def isAt (kind : Token.Kind) : Steps Bool := do
  let token ← input.peek 0
  return token.kind = kind

/-- Takes the current token if it is of the given kind. -/
def eat (kind : Token.Kind) : Steps Bool := do
  if ← input.isAt kind then
    let _ ← input.next
    return true
  else
    return false

/-- Fails at the current token. -/
def fail {α : Type} (expected : Expectation) : Steps α := do
  let found ← input.peek 0
  throw ⟨expected, found⟩

/-- Takes a token of the given kind. -/
def expect (kind : Token.Kind) (expected : Expectation) : Steps Token := do
  if ← input.isAt kind then input.next else input.fail expected

/-- Takes a name. -/
def name (expected : Expectation) : Steps String := do
  let word ← input.expect .identifier expected
  return word.lexeme

/-- Accepts a height up to the limit. -/
def checkHeight (height : Nat) : Steps Nat :=
  if input.limits.height < height then input.fail .lowerExpression else return height

end

/-! ## Expressions -/

mutual

/-- Reads an expression inside one more nesting. -/
def nested (input : Input) : Steps Measured := fun state =>
  if input.limits.nesting ≤ state.nesting then input.fail .lowerExpression state
  else do
    let (result, state) ← input |>.layer .additive { state with nesting := state.nesting + 1 }
    return (result, { state with nesting := state.nesting - 1 })
partial_fixpoint

/-- Reads operands of a layer with operators between them. -/
def layer (input : Input) (operators : Layer) : Steps Measured := do
  let left ← input |>.operand operators
  input |>.operations operators left
partial_fixpoint

/-- Reads operators of a layer and their right operands, and groups them to the left. -/
def operations (input : Input) (operators : Layer) (left : Measured) : Steps Measured := do
  let sign ← input.peek 0
  match operators.operator? sign.kind with
  | none => return left
  | some operator =>
      let _ ← input.next
      let right ← input |>.operand operators
      let height ← input.checkHeight (max left.height right.height + 1)
      input |>.operations operators ⟨.binary operator left.expression right.expression, height⟩
partial_fixpoint

/-- Reads an operand of a layer. -/
def operand (input : Input) (operators : Layer) : Steps Measured :=
  match operators with
  | .additive => input |>.layer .multiplicative
  | .multiplicative => input |>.primary
partial_fixpoint

/-- Reads a literal, a name, a call, or an expression in parentheses. -/
def primary (input : Input) : Steps Measured := do
  let word ← input.peek 0
  match word.kind with
  | .number =>
      match Numeral.toInt64? word.lexeme.toList with
      | none => input.fail .integerThatFits
      | some value =>
          let _ ← input.next
          return ⟨.number value, 1⟩
  | .string =>
      let word ← input.next
      return ⟨.string word.lexeme, 1⟩
  | .identifier =>
      let word ← input.next
      if ← input.eat .leftParen then
        let arguments ← input |>.callArguments
        let height ← input.checkHeight (greatestHeight arguments + 1)
        return ⟨.call word.lexeme (arguments.map Measured.expression), height⟩
      else
        return ⟨.name word.lexeme, 1⟩
  | .leftParen =>
      let _ ← input.next
      let inner ← input |>.nested
      let _ ← input.expect .rightParen (.token .rightParen)
      return inner
  | _ => input.fail .expression
partial_fixpoint

/-- Reads the arguments of a call and the parenthesis that closes them. -/
def callArguments (input : Input) : Steps (List Measured) := do
  let arguments ← input |>.argumentList
  let _ ← input.expect .rightParen (.tokenAt .rightParen .afterArguments)
  return arguments
partial_fixpoint

/-- Reads arguments, unless there are none. -/
def argumentList (input : Input) : Steps (List Measured) := do
  if ← input.isAt .rightParen then return [] else input |>.arguments
partial_fixpoint

/-- Reads arguments with commas between them. -/
def arguments (input : Input) : Steps (List Measured) := do
  let first ← input |>.nested
  if ← input.eat .comma then
    let others ← input |>.arguments
    return first :: others
  else
    return [first]
partial_fixpoint

end

/-- Reads a whole expression. -/
def expression (input : Input) : Steps Expr := do
  let measured ← input |>.nested
  return measured.expression

/-! ## Statements and functions -/

/-- Reads the semicolon that ends a statement. -/
def endStatement (input : Input) (place : Place) (statement : Stmt) : Steps Stmt := do
  let _ ← input.expect .semicolon (.tokenAt .semicolon place)
  return statement

/-- Reads what a variable is first set to, if anything. -/
def initialValue (input : Input) : Steps (Option Expr) := do
  if ← input.eat .assign then
    let value ← input |>.expression
    return some value
  else
    return none

/-- Reads what is returned, if anything. -/
def returnedValue (input : Input) : Steps (Option Expr) := do
  if ← input.isAt .semicolon then
    return none
  else
    let value ← input |>.expression
    return some value

/-- Whether a name and an assignment sign come next. -/
def isAtAssignment (input : Input) : Steps Bool := do
  if ← input.isAt .identifier then
    let sign ← input.peek 1
    return sign.kind = .assign
  else
    return false

/-- Reads a statement. -/
def statement (input : Input) : Steps Stmt := do
  if ← input.eat .intKeyword then
    let declared ← input.name .variableName
    let init ← input |>.initialValue
    input |>.endStatement .afterDeclaration (.declare declared init)
  else if ← input.eat .returnKeyword then
    let value ← input |>.returnedValue
    input |>.endStatement .afterReturn (.returns value)
  else if ← input.isAtAssignment then
    let assigned ← input.next
    let _ ← input.expect .assign (.token .assign)
    let value ← input |>.expression
    input |>.endStatement .afterAssignment (.assign assigned.lexeme value)
  else
    let value ← input |>.expression
    input |>.endStatement .afterExpression (.evaluate value)

/-- Reads statements up to the brace that closes the body. -/
def body (input : Input) : Steps (List Stmt) := do
  if ← input.isAt .rightBrace then
    return []
  else if ← input.isAt .endOfInput then
    input.fail (.tokenAt .rightBrace .endOfBody)
  else
    let first ← input |>.statement
    let others ← input |>.body
    return first :: others
partial_fixpoint

/-- Reads the statements of a body and the brace that closes it. -/
def closedBody (input : Input) : Steps (List Stmt) := do
  let statements ← input |>.body
  let _ ← input.expect .rightBrace (.token .rightBrace)
  return statements

/-- Reads a function. -/
def function (input : Input) : Steps Function := do
  let _ ← input.expect .intKeyword (.tokenAt .intKeyword .startOfFunction)
  let name ← input.name .functionName
  let _ ← input.expect .leftParen (.token .leftParen)
  let _ ← input.expect .rightParen (.token .rightParen)
  let _ ← input.expect .leftBrace (.token .leftBrace)
  let body ← input |>.closedBody
  return ⟨name, body⟩

/-- Reads functions up to the end of input. -/
def functions (input : Input) : Steps (List Function) := do
  if ← input.isAt .endOfInput then
    return []
  else
    let first ← input |>.function
    let others ← input |>.functions
    return first :: others
partial_fixpoint

end Input

/-- Reads a program from the first token on, after seeing to it that the last one is an end of
input. -/
def parse (tokens : List Token) : Option (Except SyntaxError Program) :=
  (Input.functions ⟨Grammar.withEnd tokens, .standard⟩ ⟨0, 0⟩).map fun outcome =>
    outcome.1.map Program.mk

end TinyC.Syntax.Cursor
