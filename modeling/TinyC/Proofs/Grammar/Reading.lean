import TinyC.Proofs.Grammar

/-!
# The readers, one step at a time

Each reader of `Syntax` as what it does with the next word, or with the next
phrase and then the rest.  The definitions match on the words and keep the
evidence that these get fewer; the equations here leave that out.
-/

namespace TinyC

namespace Syntax

/-- The next word, if there is one, is not of the given kinds. -/
def NextIsNot (kinds : Token.Kind → Bool) (rest : List Token) : Prop :=
  ∀ word ∈ rest.head?, kinds word.kind = false

theorem nextIsNot_cons {kinds : Token.Kind → Bool} {word : Token} {rest : List Token}
    (hword : kinds word.kind = false) : NextIsNot kinds (word :: rest) := by
  intro next hnext
  obtain rfl : word = next := by simpa using hnext
  exact hword

theorem NextIsNot.ne {kinds : Token.Kind → Bool} {rest : List Token} {kind : Token.Kind}
    (hrest : NextIsNot kinds rest) (hkind : kinds kind = true) :
    ∀ {lexeme offset after}, rest ≠ ⟨kind, lexeme, offset⟩ :: after := by
  rintro lexeme offset after rfl
  have hfalse : kinds kind = false := hrest ⟨kind, lexeme, offset⟩ rfl
  rw [hkind] at hfalse
  exact Bool.noConfusion hfalse

theorem nextIsNot_nil {kinds : Token.Kind → Bool} : NextIsNot kinds [] := by
  intro word hword
  simp at hword

/-- Either the next word is not of the given kinds, or there is one that is. -/
theorem nextIsNot_or (kinds : Token.Kind → Bool) (words : List Token) :
    NextIsNot kinds words ∨
      ∃ kind lexeme offset rest, words = ⟨kind, lexeme, offset⟩ :: rest ∧ kinds kind = true := by
  cases words with
  | nil => exact .inl nextIsNot_nil
  | cons word rest =>
      cases hkind : kinds word.kind with
      | false => exact .inl (nextIsNot_cons hkind)
      | true => exact .inr ⟨word.kind, word.lexeme, word.offset, rest, rfl, hkind⟩

theorem NextIsNot.of_mem {kinds : Token.Kind → Bool} {rest : List Token} {kind : Token.Kind}
    (hrest : NextIsNot kinds rest) (hkind : kinds kind = true) :
    NextIsNot (fun found => found = kind) rest := by
  intro word hword
  have hnot := hrest word hword
  exact decide_eq_false fun heq => by simp [heq, hkind] at hnot

/-! ## Single words -/

/-- A value that is changed on the way is what the next reader sees. -/
theorem bind_ok_bind {α β γ : Type} {change : α → β} (read : Except Failure (α × List Token))
    (next : β × List Token → Except Failure γ) :
    ((read >>= fun result => .ok (change result.1, result.2)) >>= next) =
      (read >>= fun result => next (change result.1, result.2)) := by
  cases read <;> rfl

theorem exists_eq_of_kind {word : Token} {kind : Token.Kind} (hword : word.kind = kind) :
    ∃ lexeme offset, word = ⟨kind, lexeme, offset⟩ :=
  ⟨word.lexeme, word.offset, by rw [← hword]⟩

theorem expect_cons {kind : Token.Kind} {expected : Expectation} {word : Token} {rest : List Token}
    (hword : word.kind = kind) : expect kind expected (word :: rest) = .ok (word, rest) := by
  rw [expect, if_pos hword]

theorem expect_of_nextIsNot {kind : Token.Kind} {expected : Expectation} {words : List Token}
    (hwords : NextIsNot (fun found => found = kind) words) :
    expect kind expected words = .error ⟨expected, words⟩ := by
  cases words with
  | nil => rfl
  | cons word rest =>
      have hword : word.kind ≠ kind := by simpa using hwords word rfl
      rw [expect, if_neg hword]

theorem name_cons {expected : Expectation} {word : Token} {rest : List Token}
    (hword : word.kind = .identifier) :
    name expected (word :: rest) = .ok (word.lexeme, rest) := by
  rw [name, expect_cons hword]
  rfl

theorem endStatement_cons {place : Place} {statement : Stmt} {semicolon : Token}
    {rest : List Token} (hsemicolon : semicolon.kind = .semicolon) :
    endStatement place statement (semicolon :: rest) = .ok (statement, rest) := by
  rw [endStatement, expect_cons hsemicolon]
  rfl

/-! ## Layers of operators -/

variable {limit : Nat} {operator? : Token.Kind → Option Operator} {operand : Rule Measured}

/-- The loop over operators ends before a word that is none. -/
theorem operations_of_nextIsNot {left : Measured} {rest : List Token}
    (hrest : NextIsNot (fun kind => (operator? kind).isSome) rest) :
    operations limit operator? operand left rest = .ok (left, rest) := by
  cases rest with
  | nil => rw [operations]
  | cons word rest =>
      have hnone : operator? word.kind = none := by simpa using hrest word rfl
      rw [operations.eq_def]
      split
      · simp_all
      · rename_i first others hwords
        obtain ⟨rfl, rfl⟩ : word = first ∧ rest = others := by simpa using hwords
        split
        · rfl
        · simp_all

/-- The loop over operators takes one of them and its right operand. -/
theorem operations_sign {operator : Operator} {left : Measured} {sign : Token} {words : List Token}
    (hsign : operator? sign.kind = some operator) :
    operations limit operator? operand left (sign :: words) =
      (operand.read words >>= fun result =>
        checkHeight limit (max left.height result.1.height + 1) result.2 >>= fun height =>
          operations limit operator? operand
            ⟨.binary operator left.expression result.1.expression, height⟩ result.2) := by
  rw [operations]
  split
  · simp_all
  · rename_i found hfound
    obtain rfl : operator = found := by simpa [hsign] using hfound
    split
    · rename_i failure hread
      rw [hread, error_bind]
    · rename_i right after hread
      rw [hread, ok_bind]

theorem layer_read (words : List Token) :
    (layer limit operator? operand).read words =
      (operand.read words >>= fun result =>
        operations limit operator? operand result.1 result.2) := by
  simp only [layer]
  cases operand.read words <;> rfl

/-! ## Arguments and primaries -/

variable {nested : Rule Measured}

theorem moreArguments_comma {comma : Token} {words : List Token} (hcomma : comma.kind = .comma) :
    moreArguments nested (comma :: words) =
      (nested.read words >>= fun first =>
        moreArguments nested first.2 >>= fun others =>
          .ok (first.1 :: others.1, others.2)) := by
  rw [moreArguments, if_pos hcomma]
  split
  · rename_i failure hread
    rw [hread, error_bind]
  · rename_i first after hread
    rw [hread, ok_bind]
    rfl

theorem moreArguments_of_nextIsNot {rest : List Token}
    (hrest : NextIsNot (fun kind => kind = .comma) rest) :
    moreArguments nested rest = .ok ([], rest) := by
  cases rest with
  | nil => rw [moreArguments]
  | cons word rest =>
      have hword : word.kind ≠ .comma := by simpa using hrest word rfl
      rw [moreArguments, if_neg hword]

theorem callArguments_of_nextIsNot {words : List Token}
    (hwords : NextIsNot (fun kind => kind = .rightParen) words) :
    callArguments nested words =
      (nested.read words >>= fun first =>
        moreArguments nested first.2 >>= fun others =>
          .ok (first.1 :: others.1, others.2)) := by
  unfold callArguments
  split
  · exact absurd rfl (hwords.ne (by simp))
  · rfl

/-- A name that no parenthesis follows stands for itself. -/
theorem nameOrCall_of_nextIsNot {name : String} {rest : List Token}
    (hrest : NextIsNot (fun kind => kind = .leftParen) rest) :
    nameOrCall limit nested name rest = .ok (⟨.name name, 1⟩, rest) := by
  unfold nameOrCall
  split
  · exact absurd rfl (hrest.ne (by simp))
  · rfl

/-- A call has its arguments and the parenthesis that closes them, and then its height. -/
theorem nameOrCall_leftParen {name lexeme : String} {offset : Nat} {rest : List Token} :
    nameOrCall limit nested name (⟨.leftParen, lexeme, offset⟩ :: rest) =
      ((callArguments nested rest >>= fun result =>
        expect .rightParen (.tokenAt .rightParen .afterArguments) result.2 >>= fun closing =>
          .ok (result.1, closing.2)) >>= fun result =>
        checkHeight limit (greatestHeight result.1 + 1) result.2 >>= fun height =>
          .ok (⟨.call name (result.1.map Measured.expression), height⟩, result.2)) := by
  rw [nameOrCall]
  cases callArguments nested rest with
  | error failure => rfl
  | ok result =>
      obtain ⟨arguments, after⟩ := result
      dsimp only [ok_bind]
      cases expect .rightParen (.tokenAt .rightParen .afterArguments) after <;> rfl

theorem primary_of_nextIsNot {words : List Token}
    (hwords : NextIsNot Token.Kind.startsExpression words) :
    primary limit nested words = .error ⟨.expression, words⟩ := by
  unfold primary
  split
  · exact absurd rfl (hwords.ne rfl)
  · exact absurd rfl (hwords.ne rfl)
  · exact absurd rfl (hwords.ne rfl)
  · exact absurd rfl (hwords.ne rfl)
  · rfl

theorem primary_number {lexeme : String} {offset : Nat} {words : List Token} :
    primary limit nested (⟨.number, lexeme, offset⟩ :: words) =
      match Numeral.toInt64? lexeme.toList with
      | some value => .ok (⟨.number value, 1⟩, words)
      | none => .error ⟨.integerThatFits, ⟨.number, lexeme, offset⟩ :: words⟩ := rfl

/-! ## Statements, functions, programs -/

variable {limits : Limits}

/-- The kinds that tell at once which statement they begin. -/
def decidesStatement : Token.Kind → Bool
  | .intKeyword | .returnKeyword | .identifier => true
  | _ => false

/-- Unless the first word decides otherwise, a statement is an expression. -/
theorem statement_of_nextIsNot {words : List Token} (hwords : NextIsNot decidesStatement words) :
    statement limits words =
      (expression limits words >>= fun result =>
        endStatement .afterExpression (.evaluate result.1) result.2) := by
  unfold statement
  split
  · exact absurd rfl (hwords.ne rfl)
  · exact absurd rfl (hwords.ne rfl)
  · exact absurd rfl (hwords.ne rfl)
  · rfl

/-- A statement that begins with a name is an expression, unless an assignment sign follows. -/
theorem statement_name {name : String} {offset : Nat} {words : List Token}
    (hwords : NextIsNot (fun kind => kind = .assign) words) :
    statement limits (⟨.identifier, name, offset⟩ :: words) =
      (expression limits (⟨.identifier, name, offset⟩ :: words) >>= fun result =>
        endStatement .afterExpression (.evaluate result.1) result.2) := by
  unfold statement
  split
  · simp_all
  · simp_all
  · rename_i assigned start lexeme place rest hcons
    obtain ⟨-, rfl⟩ := List.cons.inj hcons
    exact absurd rfl (hwords.ne (by simp))
  · rfl

theorem statement_return {lexeme : String} {offset : Nat} {words : List Token}
    (hwords : NextIsNot (fun kind => kind = .semicolon) words) :
    statement limits (⟨.returnKeyword, lexeme, offset⟩ :: words) =
      (expression limits words >>= fun result =>
        endStatement .afterReturn (.returns (some result.1)) result.2) := by
  unfold statement
  dsimp only
  split
  · exact absurd rfl (hwords.ne (by simp))
  · rfl

theorem body_cons {word : Token} {words : List Token} (hword : word.kind ≠ .rightBrace) :
    body limits (word :: words) =
      (statement limits (word :: words) >>= fun first =>
        body limits first.2 >>= fun others => .ok (first.1 :: others.1, others.2)) := by
  rw [body.eq_def]
  split
  · simp_all
  · simp_all
  · rename_i first rest _ hwords
    obtain ⟨rfl, rfl⟩ : word = first ∧ words = rest := by simpa using hwords
    split
    · rename_i failure hread
      rw [hread, error_bind]
    · rename_i statement after hread
      rw [hread, ok_bind]
      rfl

theorem functions_cons (word : Token) (words : List Token) :
    functions limits (word :: words) =
      (function limits (word :: words) >>= fun first =>
        functions limits first.2 >>= fun others => .ok (first.1 :: others)) := by
  rw [functions]
  split
  · rename_i failure hread
    rw [hread, error_bind]
  · rename_i first rest hread
    rw [hread, ok_bind]
    rfl

/-- Functions are read up to the last word, so nothing is left when they were. -/
def functionsToEnd (limits : Limits) (words : List Token) :
    Except Failure (List Function × List Token) :=
  (functions limits words).map fun functions => (functions, [])

theorem functionsToEnd_nil : functionsToEnd limits [] = .ok ([], []) := by
  rw [functionsToEnd, functions]
  rfl

theorem functionsToEnd_cons (word : Token) (words : List Token) :
    functionsToEnd limits (word :: words) =
      (function limits (word :: words) >>= fun first =>
        functionsToEnd limits first.2 >>= fun others => .ok (first.1 :: others.1, others.2)) := by
  rw [functionsToEnd, functions_cons]
  cases function limits (word :: words) with
  | error failure => rfl
  | ok first =>
      rw [ok_bind, ok_bind, functionsToEnd]
      cases functions limits first.2 <;> rfl

end Syntax

end TinyC
