import TinyC.Proofs.Grammar.Cursor

/-!
# What the rules do on the way

The rules that read with a cursor say how reading ends, not what happens until
then.  Here each rule is written down as what it does, one thing after the other:
it looks at tokens, counts the open nestings, moves the cursor, enters or leaves a
nesting, and calls rules, perhaps itself.  A loop goes on by such a call, and so
the code of one rule is soon at its end; whether the calls come to an end is
another question.

This is no other way of reading: carried out, the code of a rule has the outcome
of the rule (`Call.steps_code`).  But with it one can speak of the states between,
and of the calls that are made in the course of a reading (`Input.Happens`).
-/

namespace TinyC.Syntax.Cursor

/-! ## Calls -/

/-- The rules that are called, with what they are called with. -/
inductive Call
  | nested
  | layer (operators : Layer)
  | operations (operators : Layer) (left : Measured)
  | operand (operators : Layer)
  | primary
  | callArguments
  | arguments
  | statement
  | body
  | function
  | functions

namespace Call

/-- What a rule reads. -/
@[reducible] def Value : Call → Type
  | .nested | .layer _ | .operations _ _ | .operand _ | .primary => Measured
  | .callArguments | .arguments => List Measured
  | .statement => Stmt
  | .body => List Stmt
  | .function => Function
  | .functions => List Function

/-- The steps of a call. -/
def steps (input : Input) : (call : Call) → Steps call.Value
  | .nested => input.nested
  | .layer operators => input.layer operators
  | .operations operators left => input.operations operators left
  | .operand operators => input.operand operators
  | .primary => input.primary
  | .callArguments => input.callArguments
  | .arguments => input.arguments
  | .statement => input.statement
  | .body => input.body
  | .function => input.function
  | .functions => input.functions

end Call

/-! ## Code -/

/-- The changes of a state. -/
inductive Change
  | advance
  | enter
  | leave
  deriving DecidableEq, Repr

/-- The state after a change. -/
def Change.apply : Change → State → State
  | .advance, state => { state with cursor := state.cursor + 1 }
  | .enter, state => { state with nesting := state.nesting + 1 }
  | .leave, state => { state with nesting := state.nesting - 1 }

/-- The token that is seen the given number of places ahead. -/
def Input.token? (input : Input) (state : State) (ahead : Nat) : Option Token :=
  input.tokens[min (state.cursor + ahead) (input.tokens.length - 1)]?

/-- What is done one after the other, up to a value or an error.  What comes next may depend on the
token that was looked at, on the number of open nestings, or on the outcome of a call. -/
inductive Code (α : Type)
  | done (result : Except SyntaxError α)
  | look (ahead : Nat) (rest : Token → Code α)
  | count (rest : Nat → Code α)
  | move (change : Change) (rest : Code α)
  | call (callee : Call) (rest : Except SyntaxError callee.Value → Code α)

namespace Code

variable {α β : Type}

/-- Goes on after a value, not after an error. -/
def bind : Code α → (α → Code β) → Code β
  | .done (.ok value), following => following value
  | .done (.error error), _ => .done (.error error)
  | .look ahead rest, following => .look ahead fun token => (rest token).bind following
  | .count rest, following => .count fun nesting => (rest nesting).bind following
  | .move change rest, following => .move change (rest.bind following)
  | .call callee rest, following => .call callee fun result => (rest result).bind following

instance : Monad Code where
  pure value := .done (.ok value)
  bind := bind

/-- Carries out the code. -/
def steps (input : Input) : Code α → Steps α
  | .done result => fun state => some (result, state)
  | .look ahead rest => fun state =>
      (input.token? state ahead).bind fun token => (rest token).steps input state
  | .count rest => fun state => (rest state.nesting).steps input state
  | .move change rest => fun state => rest.steps input (change.apply state)
  | .call callee rest => fun state =>
      (callee.steps input state).bind fun outcome => (rest outcome.1).steps input outcome.2

theorem steps_bind (input : Input) (code : Code α) (following : α → Code β) :
    (code >>= following).steps input =
      code.steps input >>= fun value => (following value).steps input := by
  show (code.bind following).steps input = _
  funext state
  induction code generalizing state with
  | done result => cases result <;> rfl
  | look ahead rest ih =>
      simp only [bind, steps, ih]
      show _ = Option.bind (Option.bind _ _) _
      rw [Option.bind_assoc]
      rfl
  | count rest ih => exact ih _ _
  | move change rest ih => exact ih _
  | call callee rest ih =>
      simp only [bind, steps, ih]
      show _ = Option.bind (Option.bind _ _) _
      rw [Option.bind_assoc]
      rfl

@[simp] theorem steps_pure (input : Input) (value : α) :
    (pure value : Code α).steps input = pure value := rfl

@[simp] theorem steps_ite (input : Input) (condition : Prop) [Decidable condition]
    (first second : Code α) :
    (if condition then first else second).steps input =
      if condition then first.steps input else second.steps input := by
  split <;> rfl

/-! ## The code of single tokens -/

/-- Looks at the token that is the given number of places ahead. -/
def peek (ahead : Nat) : Code Token := .look ahead fun token => .done (.ok token)

/-- Takes the current token.  An end of input is never left. -/
def next : Code Token := do
  let token ← peek 0
  if token.kind ≠ .endOfInput then
    move .advance (pure ())
  return token

/-- Whether the current token is of the given kind. -/
def isAt (kind : Token.Kind) : Code Bool := do
  let token ← peek 0
  return token.kind = kind

/-- Takes the current token if it is of the given kind. -/
def eat (kind : Token.Kind) : Code Bool := do
  if ← isAt kind then
    let _ ← next
    return true
  else
    return false

/-- Fails at the current token. -/
def fail (expected : Expectation) : Code α := do
  let found ← peek 0
  .done (.error ⟨expected, found⟩)

/-- Takes a token of the given kind. -/
def expect (kind : Token.Kind) (expected : Expectation) : Code Token := do
  if ← isAt kind then next else fail expected

/-- Takes a name. -/
def name (expected : Expectation) : Code String := do
  let word ← expect .identifier expected
  return word.lexeme

/-- Accepts a height up to the limit. -/
def checkHeight (limits : Limits) (height : Nat) : Code Nat :=
  if limits.height < height then fail .lowerExpression else return height

/-- Calls a rule, and gives what it gives. -/
def ofCall (callee : Call) : Code callee.Value := .call callee .done

section

variable (input : Input)

@[simp] theorem steps_peek (ahead : Nat) : (peek ahead).steps input = input.peek ahead := by
  funext state
  show Option.bind _ _ = Option.map _ _
  rw [Option.map_eq_bind]
  rfl

@[simp] theorem steps_next : next.steps input = input.next := by
  simp only [next, Input.next, steps_bind, steps_peek, steps_ite, steps_pure]
  rfl

@[simp] theorem steps_isAt (kind : Token.Kind) : (isAt kind).steps input = input.isAt kind := by
  simp only [isAt, Input.isAt, steps_bind, steps_peek, steps_pure]

@[simp] theorem steps_eat (kind : Token.Kind) : (eat kind).steps input = input.eat kind := by
  simp only [eat, Input.eat, steps_bind, steps_isAt, steps_ite, steps_next, steps_pure]

@[simp] theorem steps_fail (expected : Expectation) :
    (fail expected : Code α).steps input = input.fail expected := by
  simp only [fail, Input.fail, steps_bind, steps_peek]
  rfl

@[simp] theorem steps_expect (kind : Token.Kind) (expected : Expectation) :
    (expect kind expected).steps input = input.expect kind expected := by
  simp only [expect, Input.expect, steps_bind, steps_isAt, steps_ite, steps_next, steps_fail]

@[simp] theorem steps_name (expected : Expectation) :
    (name expected).steps input = input.name expected := by
  simp only [name, Input.name, steps_bind, steps_expect, steps_pure]

@[simp] theorem steps_checkHeight (height : Nat) :
    (checkHeight input.limits height).steps input = input.checkHeight height := by
  simp only [checkHeight, Input.checkHeight, steps_ite, steps_fail, steps_pure]

theorem steps_ofCall (callee : Call) : (ofCall callee).steps input = callee.steps input := by
  funext state
  show Option.bind _ _ = _
  exact Option.bind_fun_some _

end

/-! ## The code of the rules -/

/-- An expression inside one more nesting. -/
def nested (limits : Limits) : Code Measured :=
  .count fun nesting =>
    if limits.nesting ≤ nesting then fail .lowerExpression
    -- The nesting is left again before an error is passed on.
    else .move .enter (.call (.layer .additive) fun result => .move .leave (.done result))

/-- Operands of a layer with operators between them. -/
def layer (operators : Layer) : Code Measured := do
  let left ← ofCall (.operand operators)
  ofCall (.operations operators left)

/-- Operators of a layer and their right operands. -/
def operations (limits : Limits) (operators : Layer) (left : Measured) : Code Measured := do
  let sign ← peek 0
  match operators.operator? sign.kind with
  | none => return left
  | some operator =>
      let _ ← next
      let right ← ofCall (.operand operators)
      let height ← checkHeight limits (max left.height right.height + 1)
      ofCall (.operations operators ⟨.binary operator left.expression right.expression, height⟩)

/-- An operand of a layer. -/
def operand : Layer → Code Measured
  | .additive => ofCall (.layer .multiplicative)
  | .multiplicative => ofCall .primary

/-- A literal, a name, a call, or an expression in parentheses. -/
def primary (limits : Limits) : Code Measured := do
  let word ← peek 0
  match word.kind with
  | .number =>
      match Numeral.toInt64? word.lexeme.toList with
      | none => fail .integerThatFits
      | some value =>
          let _ ← next
          return ⟨.number value, 1⟩
  | .string =>
      let word ← next
      return ⟨.string word.lexeme, 1⟩
  | .identifier =>
      let word ← next
      if ← eat .leftParen then
        let arguments ← ofCall .callArguments
        let height ← checkHeight limits (greatestHeight arguments + 1)
        return ⟨.call word.lexeme (arguments.map Measured.expression), height⟩
      else
        return ⟨.name word.lexeme, 1⟩
  | .leftParen =>
      let _ ← next
      let inner ← ofCall .nested
      let _ ← expect .rightParen (.token .rightParen)
      return inner
  | _ => fail .expression

/-- Arguments, unless there are none. -/
def argumentList : Code (List Measured) := do
  if ← isAt .rightParen then return [] else ofCall .arguments

/-- The arguments of a call and the parenthesis that closes them. -/
def callArguments : Code (List Measured) := do
  let arguments ← argumentList
  let _ ← expect .rightParen (.tokenAt .rightParen .afterArguments)
  return arguments

/-- Arguments with commas between them. -/
def arguments : Code (List Measured) := do
  let first ← ofCall .nested
  if ← eat .comma then
    let others ← ofCall .arguments
    return first :: others
  else
    return [first]

/-- A whole expression. -/
def expression : Code Expr := do
  let measured ← ofCall .nested
  return measured.expression

/-- The semicolon that ends a statement. -/
def endStatement (place : Place) (statement : Stmt) : Code Stmt := do
  let _ ← expect .semicolon (.tokenAt .semicolon place)
  return statement

/-- What a variable is first set to, if anything. -/
def initialValue : Code (Option Expr) := do
  if ← eat .assign then
    let value ← expression
    return some value
  else
    return none

/-- What is returned, if anything. -/
def returnedValue : Code (Option Expr) := do
  if ← isAt .semicolon then
    return none
  else
    let value ← expression
    return some value

/-- Whether a name and an assignment sign come next. -/
def isAtAssignment : Code Bool := do
  if ← isAt .identifier then
    let sign ← peek 1
    return sign.kind = .assign
  else
    return false

/-- A statement. -/
def statement : Code Stmt := do
  if ← eat .intKeyword then
    let declared ← name .variableName
    let init ← initialValue
    endStatement .afterDeclaration (.declare declared init)
  else if ← eat .returnKeyword then
    let value ← returnedValue
    endStatement .afterReturn (.returns value)
  else if ← isAtAssignment then
    let assigned ← next
    let _ ← expect .assign (.token .assign)
    let value ← expression
    endStatement .afterAssignment (.assign assigned.lexeme value)
  else
    let value ← expression
    endStatement .afterExpression (.evaluate value)

/-- Statements up to the brace that closes the body. -/
def body : Code (List Stmt) := do
  if ← isAt .rightBrace then
    return []
  else if ← isAt .endOfInput then
    fail (.tokenAt .rightBrace .endOfBody)
  else
    let first ← ofCall .statement
    let others ← ofCall .body
    return first :: others

/-- The statements of a body and the brace that closes it. -/
def closedBody : Code (List Stmt) := do
  let statements ← ofCall .body
  let _ ← expect .rightBrace (.token .rightBrace)
  return statements

/-- A function. -/
def function : Code Function := do
  let _ ← expect .intKeyword (.tokenAt .intKeyword .startOfFunction)
  let name ← name .functionName
  let _ ← expect .leftParen (.token .leftParen)
  let _ ← expect .rightParen (.token .rightParen)
  let _ ← expect .leftBrace (.token .leftBrace)
  let body ← closedBody
  return ⟨name, body⟩

/-- Functions up to the end of input. -/
def functions : Code (List Function) := do
  if ← isAt .endOfInput then
    return []
  else
    let first ← ofCall .function
    let others ← ofCall .functions
    return first :: others

/-! ## Code and rules -/

section

variable (input : Input)

theorem steps_nested : (nested input.limits).steps input = input.nested := by
  funext state
  rw [Input.nested]
  show (if input.limits.nesting ≤ state.nesting then fail .lowerExpression
    else .move .enter (.call (.layer .additive) fun result => .move .leave (.done result)) :
      Code Measured).steps input state = _
  rw [steps_ite, steps_fail]
  split <;> rfl

theorem steps_layer (operators : Layer) :
    (layer operators).steps input = input.layer operators := by
  simp only [layer, Input.layer, steps_bind, steps_ofCall input (.operand operators),
    fun left => steps_ofCall input (.operations operators left), Call.steps]

theorem steps_operations (operators : Layer) (left : Measured) :
    (operations input.limits operators left).steps input = input.operations operators left := by
  rw [Input.operations, operations, steps_bind, steps_peek]
  congr 1
  funext sign
  cases operators.operator? sign.kind with
  | none => rfl
  | some operator =>
      simp only [steps_bind, steps_next, steps_ofCall input (.operand operators),
        fun left => steps_ofCall input (.operations operators left), steps_checkHeight, Call.steps]

theorem steps_operand (operators : Layer) :
    (operand operators).steps input = input.operand operators := by
  cases operators with
  | additive =>
      rw [Input.operand]
      exact steps_ofCall input (.layer .multiplicative)
  | multiplicative =>
      rw [Input.operand]
      exact steps_ofCall input .primary

theorem steps_primary : (primary input.limits).steps input = input.primary := by
  rw [Input.primary, primary, steps_bind, steps_peek]
  congr 1
  funext word
  cases word.kind with
  | number =>
      cases Numeral.toInt64? word.lexeme.toList <;>
        simp only [steps_bind, steps_pure, steps_next, steps_fail]
  | string => simp only [steps_bind, steps_pure, steps_next]
  | identifier =>
      simp only [steps_bind, steps_pure, steps_next, steps_eat, steps_ite,
        steps_ofCall input .callArguments, steps_checkHeight, Call.steps]
  | leftParen =>
      simp only [steps_bind, steps_pure, steps_next, steps_ofCall input .nested, steps_expect,
        Call.steps]
  | _ => exact steps_fail input .expression

theorem steps_callArguments : callArguments.steps input = input.callArguments := by
  simp only [callArguments, argumentList, Input.callArguments, Input.argumentList, steps_bind,
    steps_isAt, steps_ite, steps_pure, steps_ofCall input .arguments, steps_expect, Call.steps]

theorem steps_arguments : arguments.steps input = input.arguments := by
  rw [Input.arguments]
  simp only [arguments, steps_bind, steps_eat, steps_ite, steps_pure, steps_ofCall input .nested,
    steps_ofCall input .arguments, Call.steps]

theorem steps_expression : expression.steps input = input.expression := by
  simp only [expression, Input.expression, steps_bind, steps_pure, steps_ofCall input .nested,
    Call.steps]

theorem steps_endStatement (place : Place) (statement : Stmt) :
    (endStatement place statement).steps input = input.endStatement place statement := by
  simp only [endStatement, Input.endStatement, steps_bind, steps_expect, steps_pure]

theorem steps_statement : statement.steps input = input.statement := by
  simp only [statement, initialValue, returnedValue, isAtAssignment, Input.statement,
    Input.initialValue, Input.returnedValue, Input.isAtAssignment, steps_bind, steps_eat,
    steps_isAt, steps_peek, steps_ite, steps_name, steps_pure, steps_expression, steps_next,
    steps_expect, steps_endStatement]

theorem steps_body : body.steps input = input.body := by
  rw [Input.body]
  simp only [body, steps_bind, steps_isAt, steps_ite, steps_pure, steps_ofCall input .statement,
    steps_ofCall input .body, steps_fail, Call.steps]

theorem steps_function : function.steps input = input.function := by
  simp only [Input.function, Input.closedBody, function, closedBody, steps_bind, steps_expect,
    steps_name, steps_pure, steps_ofCall input .body, Call.steps]

theorem steps_functions : functions.steps input = input.functions := by
  rw [Input.functions]
  simp only [functions, steps_bind, steps_isAt, steps_ite, steps_pure,
    steps_ofCall input .function, steps_ofCall input .functions, Call.steps]

end

end Code

/-- What a call does. -/
def Call.code (limits : Limits) : (call : Call) → Code call.Value
  | .nested => .nested limits
  | .layer operators => .layer operators
  | .operations operators left => .operations limits operators left
  | .operand operators => .operand operators
  | .primary => .primary limits
  | .callArguments => .callArguments
  | .arguments => .arguments
  | .statement => .statement
  | .body => .body
  | .function => .function
  | .functions => .functions

/-- What a call does, carried out, are its steps. -/
theorem Call.steps_code (input : Input) (call : Call) :
    (call.code input.limits).steps input = call.steps input := by
  cases call with
  | nested => exact Code.steps_nested input
  | layer operators => exact Code.steps_layer input operators
  | operations operators left => exact Code.steps_operations input operators left
  | operand operators => exact Code.steps_operand input operators
  | primary => exact Code.steps_primary input
  | callArguments => exact Code.steps_callArguments input
  | arguments => exact Code.steps_arguments input
  | statement => exact Code.steps_statement input
  | body => exact Code.steps_body input
  | function => exact Code.steps_function input
  | functions => exact Code.steps_functions input

/-! ## Events -/

/-- What can be told apart on the way: a look at a token, a change that has led to the state, and a
call that begins. -/
inductive Action
  | looks (ahead : Nat)
  | moved
  | calls (call : Call)

/-- A state on the way, and what happens in it. -/
structure Event where
  state : State
  action : Action

/-- The events of the code in order, but for those inside of the calls. -/
def Code.events {α : Type} (input : Input) : Code α → State → List Event
  | .done _, _ => []
  | .look ahead rest, state =>
      ⟨state, .looks ahead⟩ ::
        (input.token? state ahead).elim [] fun token => (rest token).events input state
  | .count rest, state => (rest state.nesting).events input state
  | .move change rest, state =>
      ⟨change.apply state, .moved⟩ :: rest.events input (change.apply state)
  | .call callee rest, state =>
      ⟨state, .calls callee⟩ ::
        (callee.steps input state).elim [] fun outcome => (rest outcome.1).events input outcome.2

/-- The events of reading functions from the first token on. -/
inductive Input.Happens (input : Input) : Event → Prop
  | start : input.Happens ⟨⟨0, 0⟩, .calls .functions⟩
  | inside {call : Call} {state : State} {event : Event}
      (hcall : input.Happens ⟨state, .calls call⟩)
      (hevent : event ∈ (call.code input.limits).events input state) : input.Happens event

/-- The inner call is made by the outer one, in the course of reading functions. -/
def Input.Makes (input : Input) (inner outer : Call × State) : Prop :=
  input.Happens ⟨outer.2, .calls outer.1⟩ ∧
    ⟨inner.2, .calls inner.1⟩ ∈ (outer.1.code input.limits).events input outer.2

end TinyC.Syntax.Cursor
