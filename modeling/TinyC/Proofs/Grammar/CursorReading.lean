import TinyC.Proofs.Grammar.Cursor

/-!
# What is read with a cursor

Reading with a cursor always comes to an end, and with the outcome of reading the
words before the first end of input from a list that gets shorter.

## Strategy

A cursor that stands before some rest of the words sees what this rest begins
with, or the first end of input if nothing is left (`Stops.getElem?_eq`); an end
of input is no word that a rule takes, so the cursor never gets behind it.
Steps *follow* a reader if, from before any rest of the words, they have the
outcome of reading the rest, and leave the cursor before an end of it
(`Follows`).  Steps in a row follow readers in a row (`Follows.bind`), so each
rule follows its reader by the parts that it is made of.

Rules that go on after a first part come to an end because the readers leave
fewer words, and rules that go inwards because only so many nestings may be open.
-/

namespace TinyC.Syntax.Cursor

open Grammar

/-! ## Steps that follow a reader -/

/-- The tokens begin with words and the end of input at which these stop. -/
structure Stops (tokens words : List Token) (stop : Token) : Prop where
  exists_eq : ∃ after, tokens = words ++ stop :: after
  ne_endOfInput : ∀ word ∈ words, word.kind ≠ .endOfInput
  kind_stop : stop.kind = .endOfInput

/-- The state with the cursor before the rest of the words. -/
def State.before (words rest : List Token) (nesting : Nat) : State :=
  ⟨words.length - rest.length, nesting⟩

/-- The outcome of a reader as steps have it. -/
def outcome {α : Type} (words : List Token) (stop : Token) (nesting : Nat) :
    Except Failure (α × List Token) → Except SyntaxError α × State
  | .ok (value, rest) => (.ok value, .before words rest nesting)
  | .error failure =>
      (.error ⟨failure.expected, failure.rest.head?.getD stop⟩,
        .before words failure.rest nesting)

/-- Before the rest of the words, the steps have the outcome of reading it, and leave an end of the
rest. -/
structure Follows {α : Type} (words : List Token) (stop : Token) (nesting : Nat) (steps : Steps α)
    (rest : List Token) (read : Except Failure (α × List Token)) : Prop where
  run : steps (.before words rest nesting) = some (outcome words stop nesting read)
  isSuffix : ∀ value after, read = .ok (value, after) → after <:+ rest

variable {α β : Type} {tokens words rest after : List Token} {stop word : Token} {nesting : Nat}
  {kind : Token.Kind} {expected : Expectation}

theorem follows_of_run {steps : Steps α} {value : α} (hsuffix : after <:+ rest)
    (hrun : steps (.before words rest nesting) = some (.ok value, .before words after nesting)) :
    Follows words stop nesting steps rest (.ok (value, after)) := by
  refine ⟨hrun, fun other final heq => ?_⟩
  obtain ⟨-, rfl⟩ := Prod.mk.inj (Except.ok.inj heq)
  exact hsuffix

theorem follows_pure (value : α) :
    Follows words stop nesting (pure value) rest (.ok (value, rest)) :=
  follows_of_run List.suffix_rfl rfl

/-- Steps in a row follow readers in a row. -/
theorem Follows.bind {steps : Steps α} {next : α → Steps β}
    {read : Except Failure (α × List Token)}
    {readNext : α × List Token → Except Failure (β × List Token)}
    (hsteps : Follows words stop nesting steps rest read)
    (hnext : ∀ value after, read = .ok (value, after) → after <:+ rest →
      Follows words stop nesting (next value) after (readNext (value, after))) :
    Follows words stop nesting (steps >>= next) rest (read >>= readNext) := by
  have hrun : (steps >>= next) (.before words rest nesting) =
      (steps (.before words rest nesting)).bind fun result =>
        ExceptT.bindCont next result.1 result.2 := rfl
  cases read with
  | error failure =>
      refine ⟨?_, fun value after heq => by cases heq⟩
      rw [hrun, hsteps.run]
      rfl
  | ok result =>
      obtain ⟨value, after⟩ := result
      have hsuffix := hsteps.isSuffix value after rfl
      have hrest := hnext value after rfl hsuffix
      refine ⟨?_, fun other final heq => (hrest.isSuffix other final heq).trans hsuffix⟩
      rw [hrun, hsteps.run]
      exact hrest.run

/-- After steps that give a value, the next ones are followed from where they left. -/
theorem Follows.then {steps : Steps α} {next : α → Steps β} {value : α}
    {read : Except Failure (β × List Token)}
    (hsteps : Follows words stop nesting steps rest (.ok (value, after)))
    (hnext : after <:+ rest → Follows words stop nesting (next value) after read) :
    Follows words stop nesting (steps >>= next) rest read := by
  have hbind : Follows words stop nesting (steps >>= next) rest
      ((.ok (value, after) : Except Failure (α × List Token)) >>= fun _ => read) := by
    refine hsteps.bind fun found left heq hsuffix => ?_
    obtain ⟨rfl, rfl⟩ := Prod.mk.inj (Except.ok.inj heq)
    exact hnext hsuffix
  exact hbind

/-- Nothing is done after a failure. -/
theorem Follows.of_error {steps : Steps α} {next : α → Steps β} {failure : Failure}
    (hsteps : Follows words stop nesting steps rest (.error failure)) :
    Follows words stop nesting (steps >>= next) rest (.error failure) := by
  have hbind : Follows words stop nesting (steps >>= next) rest
      ((.error failure : Except Failure (α × List Token)) >>= fun _ => .error failure) :=
    hsteps.bind fun _ _ heq => by cases heq
  exact hbind

/-! ## Single tokens -/

/-- Behind a part of the words, the tokens are the rest of the words and the end of input. -/
theorem Stops.getElem?_eq (hstops : Stops tokens words stop) (hrest : rest <:+ words)
    {ahead : Nat} (hahead : ahead ≤ rest.length) :
    tokens[min (words.length - rest.length + ahead) (tokens.length - 1)]? =
      (rest ++ [stop])[ahead]? := by
  obtain ⟨taken, rfl⟩ := hrest
  obtain ⟨after, rfl⟩ := hstops.exists_eq
  have hindex : (taken ++ rest).length - rest.length + ahead = taken.length + ahead := by
    rw [List.length_append]
    omega
  have hsplit : taken ++ rest ++ stop :: after = taken ++ (rest ++ [stop] ++ after) := by simp
  rw [hindex, hsplit, Nat.min_eq_left (by simp; omega),
    List.getElem?_append_right (Nat.le_add_right _ _), Nat.add_sub_cancel_left,
    List.getElem?_append_left (by simp; omega)]

/-- What the end of input is not, and the next word neither, the cursor does not find. -/
theorem Stops.kinds_head (hstops : Stops tokens words stop) {kinds : Token.Kind → Bool}
    (hkinds : kinds .endOfInput = false) (hnext : NextIsNot kinds rest) :
    kinds (rest.head?.getD stop).kind = false := by
  cases rest with
  | nil => exact hstops.kind_stop ▸ hkinds
  | cons word rest => exact hnext word rfl

section

variable {input : Input} (hstops : Stops input.tokens words stop)
include hstops

theorem follows_peek (hrest : rest <:+ words) :
    Follows words stop nesting (input.peek 0) rest (.ok (rest.head?.getD stop, rest)) := by
  refine follows_of_run List.suffix_rfl ?_
  have htoken : input.tokens[min (words.length - rest.length + 0) (input.tokens.length - 1)]? =
      some (rest.head?.getD stop) := by
    rw [hstops.getElem?_eq hrest (Nat.zero_le _)]
    cases rest <;> rfl
  rw [Input.peek, State.before, htoken]
  rfl

/-- Before a word, the one after it can be looked at too. -/
theorem follows_peek_second (hrest : word :: rest <:+ words) :
    Follows words stop nesting (input.peek 1) (word :: rest)
      (.ok (rest.head?.getD stop, word :: rest)) := by
  refine follows_of_run List.suffix_rfl ?_
  have htoken : input.tokens[min (words.length - (word :: rest).length + 1)
      (input.tokens.length - 1)]? = some (rest.head?.getD stop) := by
    rw [hstops.getElem?_eq hrest (Nat.le_add_left _ _)]
    cases rest <;> rfl
  rw [Input.peek, State.before, htoken]
  rfl

/-- The cursor moves over every word. -/
theorem follows_next (hrest : word :: rest <:+ words) :
    Follows words stop nesting input.next (word :: rest) (.ok (word, rest)) := by
  have hword : word.kind ≠ .endOfInput :=
    hstops.ne_endOfInput word (hrest.subset List.mem_cons_self)
  refine (follows_peek hstops hrest).then fun _ => ?_
  refine follows_of_run (List.suffix_cons word rest) ?_
  have hlength := hrest.length_le
  rw [List.length_cons] at hlength
  have hmoved : words.length - (word :: rest).length + 1 = words.length - rest.length := by
    rw [List.length_cons]
    omega
  rw [List.head?_cons, Option.getD_some, if_pos hword, State.before, State.before, ← hmoved]
  rfl

theorem follows_fail (hrest : rest <:+ words) :
    Follows words stop nesting (input.fail expected : Steps α) rest (.error ⟨expected, rest⟩) := by
  exact (follows_peek hstops hrest).then fun _ => ⟨rfl, fun _ _ heq => by cases heq⟩

theorem follows_isAt_cons (hrest : word :: rest <:+ words) (hword : word.kind = kind) :
    Follows words stop nesting (input.isAt kind) (word :: rest) (.ok (true, word :: rest)) := by
  refine (follows_peek hstops hrest).then fun _ => ?_
  rw [List.head?_cons, Option.getD_some, hword, decide_eq_true rfl]
  exact follows_pure true

/-- The cursor is at no kind that the next word is not of, as the end of input has its own. -/
theorem follows_isAt_of_nextIsNot (hrest : rest <:+ words) (hkind : kind ≠ .endOfInput)
    (hnext : NextIsNot (fun found => found = kind) rest) :
    Follows words stop nesting (input.isAt kind) rest (.ok (false, rest)) := by
  refine (follows_peek hstops hrest).then fun _ => ?_
  rw [hstops.kinds_head (decide_eq_false hkind.symm) hnext]
  exact follows_pure false

theorem follows_eat_cons (hrest : word :: rest <:+ words) (hword : word.kind = kind) :
    Follows words stop nesting (input.eat kind) (word :: rest) (.ok (true, rest)) :=
  (follows_isAt_cons hstops hrest hword).then fun _ =>
    (follows_next hstops hrest).then fun _ => follows_pure true

theorem follows_eat_of_nextIsNot (hrest : rest <:+ words) (hkind : kind ≠ .endOfInput)
    (hnext : NextIsNot (fun found => found = kind) rest) :
    Follows words stop nesting (input.eat kind) rest (.ok (false, rest)) :=
  (follows_isAt_of_nextIsNot hstops hrest hkind hnext).then fun _ => follows_pure false

theorem follows_expect_cons (hrest : word :: rest <:+ words) (hword : word.kind = kind) :
    Follows words stop nesting (input.expect kind expected) (word :: rest) (.ok (word, rest)) :=
  (follows_isAt_cons hstops hrest hword).then fun _ => follows_next hstops hrest

theorem follows_expect (hrest : rest <:+ words) (hkind : kind ≠ .endOfInput) :
    Follows words stop nesting (input.expect kind expected) rest
      (Syntax.expect kind expected rest) := by
  obtain hnext | ⟨found, lexeme, offset, rest, rfl, hfound⟩ :=
    nextIsNot_or (fun found => found = kind) rest
  · rw [expect_of_nextIsNot hnext]
    exact (follows_isAt_of_nextIsNot hstops hrest hkind hnext).then fun _ =>
      follows_fail hstops hrest
  · have hword : found = kind := by simpa using hfound
    rw [expect_cons hword]
    exact follows_expect_cons hstops hrest hword

theorem follows_name (hrest : rest <:+ words) :
    Follows words stop nesting (input.name expected) rest (Syntax.name expected rest) :=
  (follows_expect hstops hrest (by decide)).bind fun word _ _ _ => follows_pure word.lexeme

/-! ## Layers of operators -/

theorem follows_checkHeight {height : Nat} {next : Nat → Steps α}
    {readNext : Nat → Except Failure (α × List Token)} (hrest : rest <:+ words)
    (hnext : Follows words stop nesting (next height) rest (readNext height)) :
    Follows words stop nesting (input.checkHeight height >>= next) rest
      (Syntax.checkHeight input.limits.height height rest >>= readNext) := by
  rw [Input.checkHeight, Syntax.checkHeight]
  split
  · exact (follows_fail hstops hrest).of_error
  · exact (follows_pure height).then fun _ => hnext

variable {rule : Rule Measured} {operators : Layer}

theorem follows_operations
    (hoperand : ∀ {rest : List Token}, rest <:+ words →
      Follows words stop nesting (input.operand operators) rest (rule.read rest))
    (left : Measured) (rest : List Token) (hrest : rest <:+ words) :
    Follows words stop nesting (input.operations operators left) rest
      (Syntax.operations input.limits.height operators.operator? rule left rest) := by
  rw [Input.operations]
  refine (follows_peek hstops hrest).then fun _ => ?_
  obtain hnext | ⟨kind, lexeme, offset, others, hwords, hsign⟩ :=
    nextIsNot_or (fun kind => (operators.operator? kind).isSome) rest
  · have hend : (operators.operator? .endOfInput).isSome = false := by
      cases operators <;> rfl
    have hnone := Option.not_isSome_iff_eq_none.1
      (Bool.eq_false_iff.1 (hstops.kinds_head hend hnext))
    rw [hnone, operations_of_nextIsNot hnext]
    exact follows_pure left
  · obtain ⟨operator, hoperator⟩ := Option.isSome_iff_exists.1 hsign
    subst hwords
    have hothers : others <:+ words := (List.suffix_cons _ _).trans hrest
    rw [operations_sign hoperator, List.head?_cons, Option.getD_some, hoperator]
    refine (follows_next hstops hrest).then fun _ => ?_
    refine (hoperand hothers).bind fun right after hright hafter => ?_
    refine follows_checkHeight hstops (hafter.trans hothers) ?_
    exact follows_operations hoperand _ after (hafter.trans hothers)
termination_by rest.length
decreasing_by
  have hshorter := rule.shorter hright
  rw [hwords, List.length_cons]
  omega

theorem follows_layer
    (hoperand : ∀ {rest : List Token}, rest <:+ words →
      Follows words stop nesting (input.operand operators) rest (rule.read rest))
    {rest : List Token} (hrest : rest <:+ words) :
    Follows words stop nesting (input.layer operators) rest
      ((Syntax.layer input.limits.height operators.operator? rule).read rest) := by
  rw [Input.layer, layer_read]
  refine (hoperand hrest).bind fun left after _ hafter => ?_
  exact follows_operations hstops hoperand left after (hafter.trans hrest)

/-! ## Arguments and primaries -/

section

variable (hnested : ∀ {rest : List Token}, rest <:+ words →
  Follows words stop nesting input.nested rest (rule.read rest))
include hnested

theorem follows_arguments (rest : List Token) (hrest : rest <:+ words) :
    Follows words stop nesting input.arguments rest
      (rule.read rest >>= fun first =>
        moreArguments rule first.2 >>= fun others =>
          .ok (first.1 :: others.1, others.2)) := by
  rw [Input.arguments]
  refine (hnested hrest).bind fun first after hfirst hafter => ?_
  have hafter := hafter.trans hrest
  obtain hnext | ⟨kind, lexeme, offset, others, hwords, hkind⟩ :=
    nextIsNot_or (fun kind => kind = .comma) after
  · dsimp only
    rw [moreArguments_of_nextIsNot hnext]
    exact (follows_eat_of_nextIsNot hstops hafter (by decide) hnext).then fun _ =>
      follows_pure [first]
  · have hcomma : kind = .comma := by simpa using hkind
    rw [hwords] at hafter
    have hothers : others <:+ words := (List.suffix_cons _ _).trans hafter
    dsimp only
    rw [hwords, moreArguments_comma hcomma]
    refine (follows_eat_cons hstops hafter hcomma).then fun _ => ?_
    exact (follows_arguments others hothers).bind fun trees rest _ _ => follows_pure _
termination_by rest.length
decreasing_by
  have hshorter := rule.shorter hfirst
  rw [hwords, List.length_cons] at hshorter
  omega

theorem follows_argumentList {rest : List Token} (hrest : rest <:+ words) :
    Follows words stop nesting input.argumentList rest
      (Syntax.callArguments rule rest) := by
  rw [Input.argumentList]
  obtain hnext | ⟨kind, lexeme, offset, others, rfl, hkind⟩ :=
    nextIsNot_or (fun kind => kind = .rightParen) rest
  · rw [callArguments_of_nextIsNot hnext]
    exact (follows_isAt_of_nextIsNot hstops hrest (by decide) hnext).then fun _ =>
      follows_arguments hstops hnested rest hrest
  · obtain rfl : kind = .rightParen := by simpa using hkind
    exact (follows_isAt_cons hstops hrest rfl).then fun _ => follows_pure []

/-- What is read between parentheses, with the one that closes them. -/
theorem follows_callArguments {rest : List Token} (hrest : rest <:+ words) :
    Follows words stop nesting input.callArguments rest
      (Syntax.callArguments rule rest >>= fun result =>
        Syntax.expect .rightParen (.tokenAt .rightParen .afterArguments) result.2 >>= fun closing =>
          .ok (result.1, closing.2)) := by
  have hclosing : Token.Kind.rightParen ≠ .endOfInput := by decide
  rw [Input.callArguments]
  refine (follows_argumentList hstops hnested hrest).bind fun trees after _ hafter => ?_
  exact (follows_expect hstops (hafter.trans hrest) hclosing).bind fun closing rest _ _ =>
    follows_pure trees

theorem follows_nameOrCall (name : String) {rest : List Token} (hrest : rest <:+ words) :
    Follows words stop nesting
      (do
        if ← input.eat .leftParen then
          let arguments ← input.callArguments
          let height ← input.checkHeight (greatestHeight arguments + 1)
          return ⟨.call name (arguments.map Measured.expression), height⟩
        else
          return ⟨.name name, 1⟩)
      rest (Syntax.nameOrCall input.limits.height rule name rest) := by
  have hopening : Token.Kind.leftParen ≠ .endOfInput := by decide
  obtain hnext | ⟨kind, lexeme, offset, others, rfl, hkind⟩ :=
    nextIsNot_or (fun kind => kind = .leftParen) rest
  · rw [nameOrCall_of_nextIsNot hnext]
    exact (follows_eat_of_nextIsNot hstops hrest hopening hnext).then fun _ => follows_pure _
  · obtain rfl : kind = .leftParen := by simpa using hkind
    have hothers : others <:+ words := (List.suffix_cons _ _).trans hrest
    rw [nameOrCall_leftParen]
    refine (follows_eat_cons hstops hrest rfl).then fun _ => ?_
    refine (follows_callArguments hstops hnested hothers).bind fun trees after _ hafter => ?_
    exact follows_checkHeight hstops (hafter.trans hothers) (follows_pure _)

theorem follows_primary {rest : List Token} (hrest : rest <:+ words) :
    Follows words stop nesting input.primary rest
      (Syntax.primary input.limits.height rule rest) := by
  rw [Input.primary]
  refine (follows_peek hstops hrest).then fun _ => ?_
  obtain hnext | ⟨kind, lexeme, offset, others, rfl, hkind⟩ :=
    nextIsNot_or Token.Kind.startsExpression rest
  · have hother := hstops.kinds_head rfl hnext
    rw [primary_of_nextIsNot hnext]
    generalize rest.head?.getD stop = word at hother ⊢
    cases hkind : word.kind <;>
      first
        | exact follows_fail hstops hrest
        | simp [hkind, Token.Kind.startsExpression] at hother
  · have hothers : others <:+ words := (List.suffix_cons _ _).trans hrest
    cases kind with
    | number =>
        rw [primary_number]
        dsimp only [List.head?_cons, Option.getD_some]
        cases Numeral.toInt64? lexeme.toList with
        | none => exact follows_fail hstops hrest
        | some value => exact (follows_next hstops hrest).then fun _ => follows_pure _
    | string => exact (follows_next hstops hrest).then fun _ => follows_pure _
    | identifier =>
        refine (follows_next hstops hrest).then fun _ => ?_
        exact follows_nameOrCall hstops hnested lexeme hothers
    | leftParen =>
        refine (follows_next hstops hrest).then fun _ => ?_
        refine (hnested hothers).bind fun inner after _ hafter => ?_
        have hclosing := hafter.trans hothers
        exact (follows_expect hstops hclosing (by decide)).bind fun _ _ _ _ => follows_pure inner
    | _ => simp [Token.Kind.startsExpression] at hkind

theorem follows_sum {rest : List Token} (hrest : rest <:+ words) :
    Follows words stop nesting (input.layer .additive) rest
      ((sum input.limits.height rule).read rest) := by
  have hprimary : ∀ {rest : List Token}, rest <:+ words →
      Follows words stop nesting (input.operand .multiplicative) rest
        (Syntax.primary input.limits.height rule rest) := by
    intro rest hrest
    rw [Input.operand]
    exact follows_primary hstops hnested hrest
  have hproduct : ∀ {rest : List Token}, rest <:+ words →
      Follows words stop nesting (input.operand .additive) rest
        ((product input.limits.height rule).read rest) := by
    intro rest hrest
    rw [Input.operand]
    exact follows_layer hstops hprimary hrest
  exact follows_layer hstops hproduct hrest

end

/-! ## Nestings -/

/-- The nestings that are open and those that are left are all that there may be. -/
theorem follows_nested {remaining : Nat} (hremaining : nesting + remaining = input.limits.nesting)
    {rest : List Token} (hrest : rest <:+ words) :
    Follows words stop nesting input.nested rest
      ((Syntax.nested input.limits.height remaining).read rest) := by
  induction remaining generalizing nesting rest with
  | zero =>
      have hfull : input.limits.nesting ≤ (State.before words rest nesting).nesting :=
        Nat.le_of_eq hremaining.symm
      have hfailed : Follows words stop nesting (input.fail .lowerExpression : Steps Measured) rest
          (.error ⟨.lowerExpression, rest⟩) := follows_fail hstops hrest
      refine ⟨?_, hfailed.isSuffix⟩
      rw [Input.nested, if_pos hfull]
      exact hfailed.run
  | succ remaining ih =>
      have hlt : nesting < input.limits.nesting := by omega
      have hopen : ¬input.limits.nesting ≤ (State.before words rest nesting).nesting :=
        Nat.not_le.2 hlt
      have hinner : nesting + 1 + remaining = input.limits.nesting := by omega
      have hsum : Follows words stop (nesting + 1) (input.layer .additive) rest
          ((sum input.limits.height (Syntax.nested input.limits.height remaining)).read rest) :=
        follows_sum hstops (fun hrest => ih hinner hrest) hrest
      refine ⟨?_, hsum.isSuffix⟩
      rw [Input.nested, if_neg hopen]
      show (input.layer .additive (.before words rest (nesting + 1))).bind _ = _
      rw [hsum.run, Syntax.nested]
      -- The nesting that was opened is closed again, whatever the outcome.
      cases (sum input.limits.height (Syntax.nested input.limits.height remaining)).read rest <;>
        rfl

/-! ## Statements -/

theorem follows_expression (hrest : rest <:+ words) :
    Follows words stop 0 input.expression rest (Syntax.expression input.limits rest) :=
  (follows_nested hstops (Nat.zero_add input.limits.nesting) hrest).bind fun measured _ _ _ =>
    follows_pure measured.expression

theorem follows_endStatement {place : Place} {statement : Stmt} (hrest : rest <:+ words) :
    Follows words stop nesting (input.endStatement place statement) rest
      (Syntax.endStatement place statement rest) :=
  (follows_expect hstops hrest (by decide)).bind fun _ _ _ _ => follows_pure statement

/-- An expression and the semicolon that ends its statement. -/
theorem follows_expression_endStatement {place : Place} (statement : Expr → Stmt)
    (hrest : rest <:+ words) :
    Follows words stop 0
      (input.expression >>= fun value => input.endStatement place (statement value)) rest
      (Syntax.expression input.limits rest >>= fun result =>
        Syntax.endStatement place (statement result.1) result.2) :=
  (follows_expression hstops hrest).bind fun _ _ _ hafter =>
    follows_endStatement hstops (hafter.trans hrest)

theorem follows_isAtAssignment_of_nextIsNot (hrest : rest <:+ words)
    (hnext : NextIsNot (fun kind => kind = .identifier) rest) :
    Follows words stop nesting input.isAtAssignment rest (.ok (false, rest)) :=
  (follows_isAt_of_nextIsNot hstops hrest (by decide) hnext).then fun _ => follows_pure false

/-- After a name, the word behind it decides. -/
theorem follows_isAtAssignment_cons (hrest : word :: rest <:+ words)
    (hword : word.kind = .identifier) :
    Follows words stop nesting input.isAtAssignment (word :: rest)
      (.ok (decide ((rest.head?.getD stop).kind = .assign), word :: rest)) :=
  (follows_isAt_cons hstops hrest hword).then fun _ =>
    (follows_peek_second hstops hrest).then fun _ => follows_pure _

theorem follows_initialValue_of_nextIsNot (hrest : rest <:+ words)
    (hnext : NextIsNot (fun kind => kind = .assign) rest) :
    Follows words stop nesting input.initialValue rest (.ok (none, rest)) :=
  (follows_eat_of_nextIsNot hstops hrest (by decide) hnext).then fun _ => follows_pure none

theorem follows_initialValue_cons (hrest : word :: rest <:+ words) (hword : word.kind = .assign) :
    Follows words stop 0 input.initialValue (word :: rest)
      (Syntax.expression input.limits rest >>= fun result => .ok (some result.1, result.2)) := by
  refine (follows_eat_cons hstops hrest hword).then fun hsuffix => ?_
  exact (follows_expression hstops (hsuffix.trans hrest)).bind fun value _ _ _ =>
    follows_pure (some value)

theorem follows_returnedValue_cons (hrest : word :: rest <:+ words)
    (hword : word.kind = .semicolon) :
    Follows words stop nesting input.returnedValue (word :: rest)
      (.ok (none, word :: rest)) :=
  (follows_isAt_cons hstops hrest hword).then fun _ => follows_pure none

theorem follows_returnedValue_of_nextIsNot (hrest : rest <:+ words)
    (hnext : NextIsNot (fun kind => kind = .semicolon) rest) :
    Follows words stop 0 input.returnedValue rest
      (Syntax.expression input.limits rest >>= fun result => .ok (some result.1, result.2)) :=
  (follows_isAt_of_nextIsNot hstops hrest (by decide) hnext).then fun _ =>
    (follows_expression hstops hrest).bind fun value _ _ _ => follows_pure (some value)

theorem follows_declaration {lexeme : String} {offset : Nat}
    (hrest : ⟨.intKeyword, lexeme, offset⟩ :: rest <:+ words) :
    Follows words stop 0 input.statement (⟨.intKeyword, lexeme, offset⟩ :: rest)
      (Syntax.statement input.limits (⟨.intKeyword, lexeme, offset⟩ :: rest)) := by
  refine (follows_eat_cons hstops hrest rfl).then fun hsuffix => ?_
  have hrest := hsuffix.trans hrest
  refine (follows_name hstops hrest).bind fun declared after _ hafter => ?_
  have hafter := hafter.trans hrest
  obtain hnext | ⟨kind, sign, start, others, rfl, hkind⟩ :=
    nextIsNot_or (fun kind => kind = .assign) after
  · have hend : Follows words stop 0
        (input.initialValue >>= fun init =>
          input.endStatement .afterDeclaration (.declare declared init)) after
        (Syntax.endStatement .afterDeclaration (.declare declared none) after) :=
      (follows_initialValue_of_nextIsNot hstops hafter hnext).then fun _ =>
        follows_endStatement hstops hafter
    dsimp only
    split
    · exact absurd rfl (hnext.ne rfl)
    · exact hend
  · obtain rfl : kind = .assign := by simpa using hkind
    have hend : Follows words stop 0
        (input.initialValue >>= fun init =>
          input.endStatement .afterDeclaration (.declare declared init))
        (⟨.assign, sign, start⟩ :: others)
        ((Syntax.expression input.limits others >>= fun result => .ok (some result.1, result.2)) >>=
          fun result =>
            Syntax.endStatement .afterDeclaration (.declare declared result.1) result.2) :=
      (follows_initialValue_cons hstops hafter rfl).bind fun init left _ hleft =>
        follows_endStatement hstops (hleft.trans hafter)
    rw [bind_ok_bind] at hend
    exact hend

theorem follows_return {lexeme : String} {offset : Nat}
    (hrest : ⟨.returnKeyword, lexeme, offset⟩ :: rest <:+ words) :
    Follows words stop 0 input.statement (⟨.returnKeyword, lexeme, offset⟩ :: rest)
      (Syntax.statement input.limits (⟨.returnKeyword, lexeme, offset⟩ :: rest)) := by
  have hother : NextIsNot (fun kind => kind = .intKeyword)
      (⟨.returnKeyword, lexeme, offset⟩ :: rest) := nextIsNot_cons rfl
  refine (follows_eat_of_nextIsNot hstops hrest (by decide) hother).then fun _ => ?_
  refine (follows_eat_cons hstops hrest rfl).then fun hsuffix => ?_
  have hrest := hsuffix.trans hrest
  obtain hnext | ⟨kind, sign, start, others, rfl, hkind⟩ :=
    nextIsNot_or (fun kind => kind = .semicolon) rest
  · have hend : Follows words stop 0
        (input.returnedValue >>= fun value =>
          input.endStatement .afterReturn (.returns value)) rest
        ((Syntax.expression input.limits rest >>= fun result => .ok (some result.1, result.2)) >>=
          fun result => Syntax.endStatement .afterReturn (.returns result.1) result.2) :=
      (follows_returnedValue_of_nextIsNot hstops hrest hnext).bind fun value left _ hleft =>
        follows_endStatement hstops (hleft.trans hrest)
    rw [bind_ok_bind] at hend
    rw [statement_return hnext]
    exact hend
  · obtain rfl : kind = .semicolon := by simpa using hkind
    exact (follows_returnedValue_cons hstops hrest rfl).then fun _ =>
      follows_endStatement hstops hrest

/-- A statement that begins with a name is an assignment if the sign for it is looked at next. -/
theorem follows_named {name : String} {offset : Nat}
    (hrest : ⟨.identifier, name, offset⟩ :: rest <:+ words) :
    Follows words stop 0 input.statement (⟨.identifier, name, offset⟩ :: rest)
      (Syntax.statement input.limits (⟨.identifier, name, offset⟩ :: rest)) := by
  have hint : NextIsNot (fun kind => kind = .intKeyword)
      (⟨.identifier, name, offset⟩ :: rest) := nextIsNot_cons rfl
  have hreturn : NextIsNot (fun kind => kind = .returnKeyword)
      (⟨.identifier, name, offset⟩ :: rest) := nextIsNot_cons rfl
  have hafter := (List.suffix_cons _ _).trans hrest
  refine (follows_eat_of_nextIsNot hstops hrest (by decide) hint).then fun _ => ?_
  refine (follows_eat_of_nextIsNot hstops hrest (by decide) hreturn).then fun _ => ?_
  refine (follows_isAtAssignment_cons hstops hrest rfl).then fun _ => ?_
  obtain hnext | ⟨kind, sign, start, others, rfl, hkind⟩ :=
    nextIsNot_or (fun kind => kind = .assign) rest
  · rw [hstops.kinds_head rfl hnext, statement_name hnext]
    exact follows_expression_endStatement hstops .evaluate hrest
  · obtain rfl : kind = .assign := by simpa using hkind
    have hothers := (List.suffix_cons _ _).trans hafter
    refine (follows_next hstops hrest).then fun _ => ?_
    refine (follows_expect_cons hstops hafter rfl).then fun _ => ?_
    exact follows_expression_endStatement hstops (.assign name) hothers

theorem follows_statement (hrest : rest <:+ words) :
    Follows words stop 0 input.statement rest (Syntax.statement input.limits rest) := by
  obtain hnext | ⟨kind, lexeme, offset, others, rfl, hkind⟩ := nextIsNot_or decidesStatement rest
  · rw [statement_of_nextIsNot hnext]
    refine (follows_eat_of_nextIsNot hstops hrest (by decide) (hnext.of_mem rfl)).then fun _ => ?_
    refine (follows_eat_of_nextIsNot hstops hrest (by decide) (hnext.of_mem rfl)).then fun _ => ?_
    refine (follows_isAtAssignment_of_nextIsNot hstops hrest (hnext.of_mem rfl)).then fun _ => ?_
    exact follows_expression_endStatement hstops .evaluate hrest
  cases kind with
  | intKeyword => exact follows_declaration hstops hrest
  | returnKeyword => exact follows_return hstops hrest
  | identifier => exact follows_named hstops hrest
  | _ => simp [decidesStatement] at hkind

/-! ## Functions and programs -/

/-- At the end of the words, and nowhere before, the cursor is at an end of input. -/
theorem follows_isAt_end (hrest : rest <:+ words) :
    Follows words stop nesting (input.isAt .endOfInput) rest (.ok (rest.isEmpty, rest)) := by
  refine (follows_peek hstops hrest).then fun _ => ?_
  have hend : decide ((rest.head?.getD stop).kind = .endOfInput) = rest.isEmpty := by
    cases rest with
    | nil => exact decide_eq_true hstops.kind_stop
    | cons word others =>
        exact decide_eq_false (hstops.ne_endOfInput word (hrest.subset List.mem_cons_self))
  rw [hend]
  exact follows_pure rest.isEmpty

/-- The loop over statements ends before the brace that closes the body, or fails without one. -/
theorem follows_closedBody (rest : List Token) (hrest : rest <:+ words) :
    Follows words stop 0 input.closedBody rest (Syntax.body input.limits rest) := by
  have hbrace : Token.Kind.rightBrace ≠ .endOfInput := by decide
  rw [Input.closedBody, Input.body, bind_assoc]
  match rest, hrest with
  | [], hrest =>
      rw [Syntax.body]
      refine (follows_isAt_of_nextIsNot hstops hrest hbrace nextIsNot_nil).then fun _ => ?_
      have hfailed : Follows words stop 0
          (input.isAt .endOfInput >>= fun atEnd =>
            if atEnd then input.fail (.tokenAt .rightBrace .endOfBody)
            else input.statement >>= fun first =>
              input.body >>= fun others => pure (first :: others)) []
          (.error ⟨.tokenAt .rightBrace .endOfBody, []⟩) :=
        (follows_isAt_end hstops hrest).then fun _ => follows_fail hstops hrest
      exact hfailed.of_error
  | word :: others, hrest =>
      by_cases hword : word.kind = .rightBrace
      · obtain ⟨lexeme, offset, rfl⟩ := exists_eq_of_kind hword
        rw [Syntax.body]
        refine (follows_isAt_cons hstops hrest hword).then fun _ => ?_
        refine (follows_pure []).then fun _ => ?_
        exact (follows_expect_cons hstops hrest hword).then fun _ => follows_pure []
      · have hnext : NextIsNot (fun kind => kind = .rightBrace) (word :: others) :=
          nextIsNot_cons (decide_eq_false hword)
        rw [body_cons hword]
        refine (follows_isAt_of_nextIsNot hstops hrest hbrace hnext).then fun _ => ?_
        rw [if_neg Bool.false_ne_true, bind_assoc]
        refine (follows_isAt_end hstops hrest).then fun _ => ?_
        rw [List.isEmpty_cons, if_neg Bool.false_ne_true, bind_assoc]
        refine (follows_statement hstops hrest).bind fun first after hfirst hafter => ?_
        have hmore : Follows words stop 0
            (input.closedBody >>= fun statements => pure (first :: statements)) after
            (Syntax.body input.limits after >>= fun others => .ok (first :: others.1, others.2)) :=
          (follows_closedBody after (hafter.trans hrest)).bind fun _ _ _ _ => follows_pure _
        simpa only [Input.closedBody, bind_assoc, pure_bind] using hmore
termination_by rest.length
decreasing_by exact length_of_statement hfirst

theorem follows_function (hrest : rest <:+ words) :
    Follows words stop 0 input.function rest (Syntax.function input.limits rest) := by
  refine (follows_expect hstops hrest (by decide)).bind fun _ after _ hafter => ?_
  have hrest := hafter.trans hrest
  refine (follows_name hstops hrest).bind fun name after _ hafter => ?_
  have hrest := hafter.trans hrest
  refine (follows_expect hstops hrest (by decide)).bind fun _ after _ hafter => ?_
  have hrest := hafter.trans hrest
  refine (follows_expect hstops hrest (by decide)).bind fun _ after _ hafter => ?_
  have hrest := hafter.trans hrest
  refine (follows_expect hstops hrest (by decide)).bind fun _ after _ hafter => ?_
  have hrest := hafter.trans hrest
  exact (follows_closedBody hstops after hrest).bind fun body _ _ _ =>
    follows_pure (Function.mk name body)

theorem follows_functions (rest : List Token) (hrest : rest <:+ words) :
    Follows words stop 0 input.functions rest (functionsToEnd input.limits rest) := by
  rw [Input.functions]
  refine (follows_isAt_end hstops hrest).then fun _ => ?_
  match rest, hrest with
  | [], _ =>
      rw [functionsToEnd_nil]
      exact follows_pure []
  | word :: others, hrest =>
      rw [functionsToEnd_cons]
      refine (follows_function hstops hrest).bind fun first after hfirst hafter => ?_
      exact (follows_functions after (hafter.trans hrest)).bind fun others _ _ _ =>
        follows_pure (first :: others)
termination_by rest.length
decreasing_by exact length_of_function hfirst

end

/-! ## Whole lists of tokens -/

/-- Tokens that an end of input has been added to, if there was none, stop at the first one. -/
theorem stops_withEnd (tokens : List Token) :
    Stops (withEnd tokens) (Syntax.words tokens) (Syntax.stop tokens) where
  exists_eq := exists_withEnd_eq tokens
  ne_endOfInput _ hword := ne_endOfInput_of_mem_words hword
  kind_stop := kind_stop tokens

/-- Reading with the cursor comes to an end on all tokens, with what is read from the words before
the first end of input. -/
theorem parse_eq (tokens : List Token) : parse tokens = some (Program.ofTokens tokens) := by
  have hread : Follows (Syntax.words tokens) (Syntax.stop tokens) 0
      (Input.functions ⟨withEnd tokens, .standard⟩) (Syntax.words tokens)
      (functionsToEnd .standard (Syntax.words tokens)) :=
    follows_functions (stops_withEnd tokens) (Syntax.words tokens) List.suffix_rfl
  have hstart : State.before (Syntax.words tokens) (Syntax.words tokens) 0 = ⟨0, 0⟩ := by
    rw [State.before, Nat.sub_self]
  rw [parse, ← hstart, hread.run, functionsToEnd, Program.ofTokens]
  cases Syntax.functions .standard (Syntax.words tokens) <;> rfl

end TinyC.Syntax.Cursor
