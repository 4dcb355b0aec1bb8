import TinyC.Proofs.Grammar.Reading
import TinyC.Proofs.Relocation

/-!
# Readers do not see places

What is read from words depends on their kinds and lexemes alone.  When the
tokens are moved to other offsets, the same program is read, or the same
expectation is not met at the same token, which is moved with the others.

## Strategy

`IgnoresPlaces` says of one reader that moving the words moves its outcome.  It
passes through readers in a row (`relocated_bind`), and every reader of `Syntax`
is such a row, decided by the kinds of the next words.  The loops are inductions
on the words that are left.
-/

namespace TinyC.Syntax

variable {α β : Type} {move : Nat → Nat} {words : List Token}

/-! ## Outcomes -/

/-- The words with each of them moved. -/
def relocate (move : Nat → Nat) (words : List Token) : List Token :=
  words.map (Token.relocate move)

@[simp] theorem relocate_nil : relocate move [] = [] := rfl

@[simp] theorem relocate_cons (word : Token) :
    relocate move (word :: words) = word.relocate move :: relocate move words := rfl

/-- The failure with the words that are left moved. -/
def Failure.relocate (move : Nat → Nat) (failure : Failure) : Failure :=
  ⟨failure.expected, Syntax.relocate move failure.rest⟩

/-- The outcome with the words that are left moved. -/
def relocated (move : Nat → Nat) :
    Except Failure (α × List Token) → Except Failure (α × List Token)
  | .ok (value, rest) => .ok (value, relocate move rest)
  | .error failure => .error (failure.relocate move)

/-- The reader has the same outcome on words that are moved. -/
def IgnoresPlaces (move : Nat → Nat) (read : List Token → Except Failure (α × List Token)) :
    Prop :=
  ∀ words, read (relocate move words) = relocated move (read words)

theorem NextIsNot.relocate {kinds : Token.Kind → Bool} (hwords : NextIsNot kinds words) :
    NextIsNot kinds (relocate move words) := by
  cases words with
  | nil => exact nextIsNot_nil
  | cons word rest => exact nextIsNot_cons (hwords word rfl)

/-- The second of two readers in a row goes on with words that are moved. -/
theorem relocated_bind {first : Except Failure (α × List Token)}
    {next : α × List Token → Except Failure (β × List Token)}
    (hnext : ∀ value rest, first = .ok (value, rest) →
      next (value, relocate move rest) = relocated move (next (value, rest))) :
    (relocated move first >>= next) = relocated move (first >>= next) := by
  cases first with
  | error failure => rfl
  | ok result => exact hnext result.1 result.2 rfl

/-- A value may be changed after it was read. -/
theorem relocated_map (change : α → β) (first : Except Failure (α × List Token)) :
    (relocated move first >>= fun result => .ok (change result.1, result.2)) =
      relocated move (first >>= fun result => .ok (change result.1, result.2)) :=
  relocated_bind fun _ _ _ => rfl

theorem expect_relocate {kind : Token.Kind} {expected : Expectation}
    {next : Token × List Token → Except Failure (α × List Token)}
    (hnext : ∀ word rest, next (word.relocate move, relocate move rest) =
      relocated move (next (word, rest))) :
    (expect kind expected (relocate move words) >>= next) =
      relocated move (expect kind expected words >>= next) := by
  obtain hwords | ⟨found, lexeme, offset, rest, rfl, hfound⟩ :=
    nextIsNot_or (fun found => found = kind) words
  · rw [expect_of_nextIsNot hwords, expect_of_nextIsNot hwords.relocate]
    rfl
  · have hkind : found = kind := by simpa using hfound
    rw [relocate_cons, expect_cons hkind, expect_cons hkind]
    exact hnext _ rest

theorem name_relocate (expected : Expectation) : IgnoresPlaces move (name expected) :=
  fun _ => expect_relocate fun _ _ => rfl

/-! ## Layers of operators -/

variable {limit : Nat} {operand : Rule Measured}

theorem checkHeight_relocate {height : Nat} {next second : Nat → Except Failure (α × List Token)}
    (hnext : second height = relocated move (next height)) :
    (checkHeight limit height (relocate move words) >>= second) =
      relocated move (checkHeight limit height words >>= next) := by
  rw [checkHeight, checkHeight]
  split
  · rfl
  · exact hnext

variable {operator? : Token.Kind → Option Operator}

theorem operations_relocate (hoperand : IgnoresPlaces move operand.read) (left : Measured)
    (words : List Token) :
    operations limit operator? operand left (relocate move words) =
      relocated move (operations limit operator? operand left words) := by
  obtain hnext | ⟨kind, lexeme, offset, rest, hwords, hsign⟩ :=
    nextIsNot_or (fun kind => (operator? kind).isSome) words
  · rw [operations_of_nextIsNot hnext, operations_of_nextIsNot hnext.relocate]
    rfl
  · obtain ⟨operator, hoperator⟩ := Option.isSome_iff_exists.1 hsign
    rw [hwords, relocate_cons, operations_sign hoperator, operations_sign hoperator, hoperand rest]
    refine relocated_bind fun right after hright => ?_
    exact checkHeight_relocate (operations_relocate hoperand _ after)
termination_by words.length
decreasing_by
  have hshorter := operand.shorter hright
  rw [hwords, List.length_cons]
  omega

theorem layer_relocate (hoperand : IgnoresPlaces move operand.read) :
    IgnoresPlaces move (layer limit operator? operand).read := by
  intro words
  rw [layer_read, layer_read, hoperand words]
  exact relocated_bind fun left rest _ => operations_relocate hoperand left rest

/-! ## Arguments and primaries -/

section

variable {nested : Rule Measured}

theorem moreArguments_relocate (hnested : IgnoresPlaces move nested.read) (words : List Token) :
    moreArguments nested (relocate move words) = relocated move (moreArguments nested words) := by
  obtain hnext | ⟨kind, lexeme, offset, rest, hwords, hkind⟩ :=
    nextIsNot_or (fun kind => kind = .comma) words
  · rw [moreArguments_of_nextIsNot hnext, moreArguments_of_nextIsNot hnext.relocate]
    rfl
  · have hcomma : kind = .comma := by simpa using hkind
    rw [hwords, relocate_cons, moreArguments_comma hcomma, moreArguments_comma hcomma,
      hnested rest]
    refine relocated_bind fun argument after hread => ?_
    dsimp only
    rw [moreArguments_relocate hnested after]
    exact relocated_map _ _
termination_by words.length
decreasing_by
  have hshorter := nested.shorter hread
  rw [hwords, List.length_cons]
  omega

theorem callArguments_relocate (hnested : IgnoresPlaces move nested.read) :
    IgnoresPlaces move (callArguments nested) := by
  intro words
  obtain hnext | ⟨kind, lexeme, offset, rest, rfl, hkind⟩ :=
    nextIsNot_or (fun kind => kind = .rightParen) words
  · rw [callArguments_of_nextIsNot hnext, callArguments_of_nextIsNot hnext.relocate,
      hnested words]
    refine relocated_bind fun argument after _ => ?_
    dsimp only
    rw [moreArguments_relocate hnested after]
    exact relocated_map _ _
  · obtain rfl : kind = .rightParen := by simpa using hkind
    rfl

theorem nameOrCall_relocate (hnested : IgnoresPlaces move nested.read) (name : String) :
    IgnoresPlaces move (nameOrCall limit nested name) := by
  intro words
  obtain hnext | ⟨kind, lexeme, offset, rest, rfl, hkind⟩ :=
    nextIsNot_or (fun kind => kind = .leftParen) words
  · rw [nameOrCall_of_nextIsNot hnext, nameOrCall_of_nextIsNot hnext.relocate]
    rfl
  · obtain rfl : kind = .leftParen := by simpa using hkind
    show (callArguments nested (relocate move rest) >>= _) = relocated move (_ >>= _)
    rw [callArguments_relocate hnested rest]
    refine relocated_bind fun trees rest _ => ?_
    exact expect_relocate fun _ rest => checkHeight_relocate rfl

theorem primary_relocate (hnested : IgnoresPlaces move nested.read) :
    IgnoresPlaces move (primary limit nested) := by
  intro words
  obtain hnext | ⟨kind, lexeme, offset, rest, rfl, hkind⟩ :=
    nextIsNot_or Token.Kind.startsExpression words
  · rw [primary_of_nextIsNot hnext, primary_of_nextIsNot hnext.relocate]
    rfl
  · cases kind with
    | number =>
        show primary limit nested (⟨.number, lexeme, move offset⟩ :: relocate move rest) = _
        rw [primary_number, primary_number]
        cases Numeral.toInt64? lexeme.toList <;> rfl
    | string => rfl
    | identifier => exact nameOrCall_relocate hnested lexeme rest
    | leftParen =>
        show (nested.read (relocate move rest) >>= _) = relocated move (_ >>= _)
        rw [hnested rest]
        exact relocated_bind fun inner rest _ => expect_relocate fun _ rest => rfl
    | _ => simp [Token.Kind.startsExpression] at hkind

end

theorem nested_relocate (remaining : Nat) : IgnoresPlaces move (nested limit remaining).read := by
  induction remaining with
  | zero => exact fun _ => rfl
  | succ remaining ih =>
      have hprimary : IgnoresPlaces move (primary limit (nested limit remaining)) :=
        primary_relocate ih
      exact layer_relocate (layer_relocate hprimary)

/-! ## Statements -/

variable {limits : Limits}

theorem expression_relocate : IgnoresPlaces move (expression limits) := by
  intro words
  rw [expression, expression, nested_relocate limits.nesting words]
  exact relocated_map Measured.expression _

theorem endStatement_relocate (place : Place) (statement : Stmt) :
    IgnoresPlaces move (endStatement place statement) :=
  fun _ => expect_relocate fun _ _ => rfl

/-- An expression and the end of its statement. -/
theorem expression_endStatement_relocate (place : Place) (statement : Expr → Stmt) :
    IgnoresPlaces move fun words => expression limits words >>= fun result =>
      endStatement place (statement result.1) result.2 := by
  intro words
  dsimp only
  rw [expression_relocate words]
  exact relocated_bind fun value rest _ => endStatement_relocate place (statement value) rest

theorem statement_relocate : IgnoresPlaces move (statement limits) := by
  intro words
  obtain hnext | ⟨kind, lexeme, offset, rest, rfl, hkind⟩ := nextIsNot_or decidesStatement words
  · rw [statement_of_nextIsNot hnext, statement_of_nextIsNot hnext.relocate]
    exact expression_endStatement_relocate _ .evaluate words
  cases kind with
  | intKeyword =>
      show (name .variableName (relocate move rest) >>= _) = relocated move (_ >>= _)
      rw [name_relocate .variableName rest]
      refine relocated_bind fun declared rest _ => ?_
      obtain hnext | ⟨kind, sign, start, rest, rfl, hkind⟩ :=
        nextIsNot_or (fun kind => kind = .assign) rest
      · have hend : endStatement .afterDeclaration (.declare declared none) (relocate move rest) =
            relocated move (endStatement .afterDeclaration (.declare declared none) rest) :=
          endStatement_relocate _ _ rest
        dsimp only
        split
        · exact absurd (by assumption) (hnext.relocate.ne rfl)
        · split
          · exact absurd rfl (hnext.ne rfl)
          · exact hend
      · obtain rfl : kind = .assign := by simpa using hkind
        exact expression_endStatement_relocate _ (fun init => .declare declared (some init)) rest
  | returnKeyword =>
      obtain hnext | ⟨kind, sign, start, rest, rfl, hkind⟩ :=
        nextIsNot_or (fun kind => kind = .semicolon) rest
      · rw [statement_return hnext]
        exact (statement_return hnext.relocate).trans
          (expression_endStatement_relocate _ (fun value => .returns (some value)) rest)
      · obtain rfl : kind = .semicolon := by simpa using hkind
        rfl
  | identifier =>
      obtain hnext | ⟨kind, sign, start, rest, rfl, hkind⟩ :=
        nextIsNot_or (fun kind => kind = .assign) rest
      · rw [statement_name hnext]
        exact (statement_name hnext.relocate).trans (expression_endStatement_relocate _ .evaluate
          (⟨.identifier, lexeme, offset⟩ :: rest))
      · obtain rfl : kind = .assign := by simpa using hkind
        exact expression_endStatement_relocate _ (.assign lexeme) rest
  | _ => simp [decidesStatement] at hkind

/-! ## Functions and programs -/

theorem body_relocate (words : List Token) :
    body limits (relocate move words) = relocated move (body limits words) := by
  cases words with
  | nil =>
      rw [relocate_nil, body]
      rfl
  | cons word rest =>
      by_cases hword : word.kind = .rightBrace
      · obtain ⟨lexeme, offset, rfl⟩ := exists_eq_of_kind hword
        show body limits (⟨.rightBrace, lexeme, move offset⟩ :: relocate move rest) = _
        rw [body, body]
        rfl
      · have hread : statement limits (word.relocate move :: relocate move rest) =
            relocated move (statement limits (word :: rest)) := statement_relocate (word :: rest)
        rw [relocate_cons, body_cons hword, body_cons (by simpa using hword), hread]
        refine relocated_bind fun first after hfirst => ?_
        dsimp only
        rw [body_relocate after]
        exact relocated_map _ _
termination_by words.length
decreasing_by exact length_of_statement hfirst

theorem function_relocate : IgnoresPlaces move (function limits) := by
  intro words
  refine expect_relocate fun _ rest => ?_
  dsimp only
  rw [name_relocate .functionName rest]
  refine relocated_bind fun name rest _ => ?_
  refine expect_relocate fun _ rest => ?_
  refine expect_relocate fun _ rest => ?_
  refine expect_relocate fun _ rest => ?_
  dsimp only
  rw [body_relocate rest]
  exact relocated_map (fun body => (⟨name, body⟩ : Function)) _

theorem functionsToEnd_relocate (words : List Token) :
    functionsToEnd limits (relocate move words) = relocated move (functionsToEnd limits words) := by
  cases words with
  | nil =>
      rw [relocate_nil, functionsToEnd_nil]
      rfl
  | cons word rest =>
      have hread : function limits (word.relocate move :: relocate move rest) =
          relocated move (function limits (word :: rest)) := function_relocate (word :: rest)
      rw [relocate_cons, functionsToEnd_cons, functionsToEnd_cons, hread]
      refine relocated_bind fun first after hfirst => ?_
      dsimp only
      rw [functionsToEnd_relocate after]
      exact relocated_map _ _
termination_by words.length
decreasing_by exact length_of_function hfirst

/-- What is read from words does not depend on their places, and a failure moves with them. -/
theorem functions_relocate (words : List Token) :
    functions limits (relocate move words) =
      (functions limits words).mapError (Failure.relocate move) := by
  have hread : functionsToEnd limits (relocate move words) =
      relocated move (functionsToEnd limits words) := functionsToEnd_relocate words
  rw [functionsToEnd, functionsToEnd] at hread
  cases hsecond : functions limits (relocate move words) <;>
    cases hfirst : functions limits words <;>
    rw [hsecond, hfirst] at hread
  · exact congrArg Except.error (Except.error.inj hread)
  · cases hread
  · cases hread
  · exact congrArg (fun outcome => Except.ok outcome.1) (Except.ok.inj hread)

theorem words_relocate (tokens : List Token) :
    Syntax.words (relocate move tokens) = relocate move (Syntax.words tokens) :=
  List.takeWhile_map ..

theorem exists_endOfInput_relocate {tokens : List Token}
    (hend : ∃ token ∈ tokens, token.kind = .endOfInput) :
    ∃ token ∈ relocate move tokens, token.kind = .endOfInput := by
  obtain ⟨token, htoken, hkind⟩ := hend
  exact ⟨token.relocate move, List.mem_map_of_mem htoken, hkind⟩

theorem exists_find?_endOfInput {tokens : List Token}
    (hend : ∃ token ∈ tokens, token.kind = .endOfInput) :
    ∃ last, (tokens.find? fun token => token.kind = .endOfInput) = some last :=
  Option.isSome_iff_exists.1 (List.find?_isSome.2 (by simpa using hend))

/-- An end of input among the tokens is moved with them. -/
theorem stop_relocate {tokens : List Token} (hend : ∃ token ∈ tokens, token.kind = .endOfInput) :
    Syntax.stop (relocate move tokens) = (Syntax.stop tokens).relocate move := by
  obtain ⟨last, hlast⟩ := exists_find?_endOfInput hend
  have hmoved : ((relocate move tokens).find? fun token => token.kind = .endOfInput) =
      some (last.relocate move) := by
    rw [relocate, List.find?_map]
    exact congrArg (Option.map (Token.relocate move)) hlast
  rw [Syntax.stop, Syntax.stop, hlast, hmoved]
  rfl

/-- Tokens at other places form the same program, or the same error at the token that was moved. -/
theorem ofTokens_relocate {tokens : List Token}
    (hend : ∃ token ∈ tokens, token.kind = .endOfInput) :
    Program.ofTokens (relocate move tokens) =
      (Program.ofTokens tokens).mapError (SyntaxError.relocate move) := by
  rw [Program.ofTokens, Program.ofTokens, words_relocate, functions_relocate, stop_relocate hend]
  cases Syntax.functions .standard (Syntax.words tokens) with
  | ok functions => rfl
  | error failure =>
      obtain ⟨expected, rest⟩ := failure
      cases rest <;> rfl

end TinyC.Syntax
