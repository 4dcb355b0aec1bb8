import TinyC.Proofs.Grammar
import TinyC.Proofs.Grammar.Reading

/-!
# What follows the grammar is read

Words that form an expression, a statement, a function or a program within the
limits are read as just that, whatever comes after them, unless the next word
could go on with the same phrase.

## Strategy

Operators group to the left, so after the words of a sum the reader has not
returned: it is in its loop, with the tree of the sum on its left.  `IsRead` says
this of sums and products, and it is what an induction on the derivation can
carry.  The loop comes to its end at the first word that is no operator.
-/

namespace TinyC

/-! ## Words that go on with a phrase -/

namespace Token.Kind

/-- The kinds that go on with a primary: a parenthesis after a name begins arguments. -/
def continuesPrimary : Kind → Bool
  | .leftParen => true
  | _ => false

/-- The kinds that go on with a product. -/
def continuesProduct : Kind → Bool
  | .leftParen | .star | .slash => true
  | _ => false

/-- The kinds that go on with a sum. -/
def continuesSum : Kind → Bool
  | .leftParen | .star | .slash | .plus | .minus => true
  | _ => false

end Token.Kind

namespace Syntax

theorem NextIsNot.product {rest : List Token} (hrest : NextIsNot Token.Kind.continuesSum rest) :
    NextIsNot Token.Kind.continuesProduct rest := by
  intro word hword
  have hkind := hrest word hword
  cases hk : word.kind <;> simp_all [Token.Kind.continuesSum, Token.Kind.continuesProduct]

theorem NextIsNot.primary {rest : List Token} (hrest : NextIsNot Token.Kind.continuesProduct rest) :
    NextIsNot Token.Kind.continuesPrimary rest := by
  intro word hword
  have hkind := hrest word hword
  cases hk : word.kind <;> simp_all [Token.Kind.continuesPrimary, Token.Kind.continuesProduct]

theorem NextIsNot.leftParen {rest : List Token}
    (hrest : NextIsNot Token.Kind.continuesPrimary rest) :
    NextIsNot (fun kind => kind = .leftParen) rest := by
  intro word hword
  have hkind := hrest word hword
  cases hk : word.kind <;> simp_all [Token.Kind.continuesPrimary]

end Syntax

namespace Grammar

open Syntax

/-! ## Reading trees -/

/-- A tree together with its height. -/
def measure (tree : Expr) : Measured := ⟨tree, tree.height⟩

variable {limit : Nat} {operator? : Token.Kind → Option Operator} {operand : Rule Measured}

/-- The loop over operators takes one of them and the tree of its right operand. -/
theorem operations_measure {operator : Operator} {left right : Expr} {sign : Token}
    {words rest : List Token} (hsign : operator? sign.kind = some operator)
    (hright : operand.read words = .ok (measure right, rest))
    (hheight : (Expr.binary operator left right).height ≤ limit) :
    operations limit operator? operand (measure left) (sign :: words) =
      operations limit operator? operand (measure (.binary operator left right)) rest := by
  have hlow : ¬ limit < max (measure left).height (measure right).height + 1 := by
    rw [Expr.height] at hheight
    exact Nat.not_lt.2 hheight
  have hbinary : measure (.binary operator left right) =
      ⟨.binary operator left right, max left.height right.height + 1⟩ := by
    rw [measure, Expr.height]
  rw [operations_sign hsign, hright, ok_bind, checkHeight, if_neg hlow, ok_bind, hbinary]
  rfl

theorem layer_measure {left : Measured} {words rest : List Token}
    (hleft : operand.read words = .ok (left, rest)) :
    (layer limit operator? operand).read words =
      operations limit operator? operand left rest := by
  rw [layer_read, hleft, ok_bind]

theorem moreArguments_measure {nested : Rule Measured} {comma : Token} {first : Measured}
    {words rest : List Token} (hcomma : comma.kind = .comma)
    (hfirst : nested.read words = .ok (first, rest)) :
    moreArguments nested (comma :: words) =
      (moreArguments nested rest >>= fun result => .ok (first :: result.1, result.2)) := by
  rw [moreArguments_comma hcomma, hfirst, ok_bind]

/-- Arguments after a first one are read like those after a comma. -/
theorem callArguments_eq {nested : Rule Measured} {words : List Token} {comma : Token}
    (hcomma : comma.kind = .comma) (hwords : NextIsNot (fun kind => kind = .rightParen) words) :
    callArguments nested words = moreArguments nested (comma :: words) := by
  rw [callArguments_of_nextIsNot hwords, moreArguments_comma hcomma]

/-! ## Expressions -/

namespace Phrase

/-- The height of the highest tree of a phrase. -/
def height : Phrase → Nat
  | .sum tree | .product tree | .primary tree => tree.height
  | .arguments trees => Expr.greatestHeight trees

/-- The words are read as the phrase by the readers inside which a number of further nestings may
be opened.  After a sum or a product its loop has still to look at the rest. -/
def IsRead (limit remaining : Nat) (words : List Token) : Phrase → Prop
  | .sum tree => ∀ rest, NextIsNot Token.Kind.continuesProduct rest →
      (Syntax.sum limit (nested limit remaining)).read (words ++ rest) =
        operations limit additive? (Syntax.product limit (nested limit remaining)) (measure tree)
          rest
  | .product tree => ∀ rest, NextIsNot Token.Kind.continuesPrimary rest →
      (Syntax.product limit (nested limit remaining)).read (words ++ rest) =
        operations limit multiplicative?
          ⟨Syntax.primary limit (nested limit remaining), length_of_primary⟩ (measure tree) rest
  | .primary tree => ∀ rest, NextIsNot Token.Kind.continuesPrimary rest →
      Syntax.primary limit (nested limit remaining) (words ++ rest) = .ok (measure tree, rest)
  | .arguments trees => trees ≠ [] → ∀ comma rest : Token, comma.kind = .comma →
      rest.kind = .rightParen → ∀ after,
        Syntax.moreArguments (nested limit remaining) (comma :: (words ++ rest :: after)) =
          .ok (trees.map measure, rest :: after)

theorem IsRead.product {remaining : Nat} {tree : Expr} {words rest : List Token}
    (hread : IsRead limit remaining words (.product tree))
    (hrest : NextIsNot Token.Kind.continuesProduct rest) :
    (Syntax.product limit (nested limit remaining)).read (words ++ rest) =
      .ok (measure tree, rest) := by
  rw [hread rest hrest.primary]
  refine operations_of_nextIsNot fun word hword => ?_
  have hkind := hrest word hword
  cases hk : word.kind <;> simp_all [Token.Kind.continuesProduct, multiplicative?]

theorem IsRead.nested {remaining : Nat} {tree : Expr} {words rest : List Token}
    (hread : IsRead limit remaining words (.sum tree))
    (hrest : NextIsNot Token.Kind.continuesSum rest) :
    (nested limit (remaining + 1)).read (words ++ rest) = .ok (measure tree, rest) := by
  rw [Syntax.nested, hread rest hrest.product]
  refine operations_of_nextIsNot fun word hword => ?_
  have hkind := hrest word hword
  cases hk : word.kind <;> simp_all [Token.Kind.continuesSum, additive?]

end Phrase

theorem continuesProduct_of_loose {operator : Operator} (hloose : operator.isTight = false) :
    operator.kind.continuesProduct = false := by
  cases operator <;> simp_all [Operator.isTight, Operator.kind, Token.Kind.continuesProduct]

theorem continuesPrimary_operator (operator : Operator) :
    operator.kind.continuesPrimary = false := by
  cases operator <;> rfl

theorem greatestHeight_map_measure (trees : List Expr) :
    greatestHeight (trees.map measure) = Expr.greatestHeight trees := by
  induction trees with
  | nil => rfl
  | cons tree rest ih =>
      rw [Expr.greatestHeight, ← ih]
      rfl

theorem Forms.callArguments {remaining nesting : Nat} {trees : List Expr}
    {words after : List Token} {closing : Token}
    (hforms : Forms (.arguments trees) words nesting)
    (hread : (Phrase.arguments trees).IsRead limit remaining words)
    (hclosing : closing.kind = .rightParen) :
    Syntax.callArguments (nested limit remaining) (words ++ closing :: after) =
      .ok (trees.map measure, closing :: after) := by
  cases trees with
  | nil =>
      obtain rfl := hforms.eq_nil_of_noArguments
      obtain ⟨lexeme, offset, rfl⟩ := exists_eq_of_kind hclosing
      rfl
  | cons tree trees =>
      obtain ⟨first, rest, rfl, hfirst⟩ := hforms.exists_eq_cons (by simp)
      have hcomma : (⟨.comma, ",", 0⟩ : Token).kind = .comma := rfl
      have hnext : NextIsNot (fun kind => kind = .rightParen)
          (first :: (rest ++ closing :: after)) :=
        nextIsNot_cons (by cases hkind : first.kind <;> simp_all [Token.Kind.startsExpression])
      exact (callArguments_eq hcomma hnext).trans (hread (by simp) _ closing hcomma hclosing after)

theorem map_expression_measure (trees : List Expr) :
    (trees.map measure).map Measured.expression = trees := by
  rw [List.map_map]
  exact List.map_id trees

/-- The words of a phrase within the limits are read as that phrase. -/
theorem Forms.isRead {phrase : Phrase} {words : List Token} {nesting : Nat}
    (hforms : Forms phrase words nesting) (hheight : phrase.height ≤ limit) :
    ∀ remaining, nesting ≤ remaining → phrase.IsRead limit remaining words := by
  induction hforms with
  | sumOfProduct _ ih =>
      intro remaining hle rest hrest
      exact layer_measure ((ih hheight remaining hle).product hrest)
  | @sumOfSign operator left right before after sign m n _ hloose hsign _ ihleft ihright =>
      intro remaining hle rest hrest
      have hle := Nat.max_le.1 hle
      have hheights : max left.height right.height + 1 ≤ limit := by
        rwa [Phrase.height, Expr.height] at hheight
      have hnext : NextIsNot Token.Kind.continuesProduct (sign :: (after ++ rest)) :=
        nextIsNot_cons (by rw [hsign]; exact continuesProduct_of_loose hloose)
      -- After the left operand the loop is at the sign, and takes it with the right operand.
      have hright := (ihright (by rw [Phrase.height]; omega) remaining hle.2).product hrest
      rw [List.append_assoc, List.cons_append,
        ihleft (by rw [Phrase.height]; omega) remaining hle.1 _ hnext]
      exact operations_measure (additive?_eq_some_iff.2 ⟨hloose, hsign⟩) hright hheight
  | productOfPrimary _ ih =>
      intro remaining hle rest hrest
      exact layer_measure (ih hheight remaining hle rest hrest)
  | @productOfSign operator left right before after sign m n _ htight hsign _ ihleft ihright =>
      intro remaining hle rest hrest
      have hle := Nat.max_le.1 hle
      have hheights : max left.height right.height + 1 ≤ limit := by
        rwa [Phrase.height, Expr.height] at hheight
      have hnext : NextIsNot Token.Kind.continuesPrimary (sign :: (after ++ rest)) :=
        nextIsNot_cons (by rw [hsign]; exact continuesPrimary_operator operator)
      have hright := ihright (by rw [Phrase.height]; omega) remaining hle.2 rest hrest
      rw [List.append_assoc, List.cons_append,
        ihleft (by rw [Phrase.height]; omega) remaining hle.1 _ hnext]
      exact operations_measure (multiplicative?_eq_some_iff.2 ⟨htight, hsign⟩) hright hheight
  | @number word value hkind hvalue =>
      intro remaining hle rest hrest
      obtain ⟨lexeme, offset, rfl⟩ := exists_eq_of_kind hkind
      simp only [List.cons_append, List.nil_append, Syntax.primary]
      rw [show Numeral.toInt64? lexeme.toList = some value from hvalue]
      rw [measure, Expr.height]
  | @string word hkind =>
      intro remaining hle rest hrest
      obtain ⟨lexeme, offset, rfl⟩ := exists_eq_of_kind hkind
      rw [measure, Expr.height]
      rfl
  | @name word hkind =>
      intro remaining hle rest hrest
      obtain ⟨lexeme, offset, rfl⟩ := exists_eq_of_kind hkind
      rw [measure, Expr.height]
      exact nameOrCall_of_nextIsNot hrest.leftParen
  | @call function opening closing trees words nesting hfunction hopening hforms hclosing ih =>
      intro remaining hle rest hrest
      rw [Phrase.height, Expr.height] at hheight
      have harguments := ih (Nat.le_of_succ_le hheight) remaining hle
      obtain ⟨name, offset, rfl⟩ := exists_eq_of_kind hfunction
      obtain ⟨lexeme, start, rfl⟩ := exists_eq_of_kind hopening
      have hlow : ¬ limit < Expr.greatestHeight trees + 1 := Nat.not_lt.2 hheight
      simp only [List.cons_append, List.append_assoc, List.nil_append, Syntax.primary, nameOrCall,
        hforms.callArguments harguments hclosing, ok_bind, expect_cons hclosing, pure_eq_ok,
        map_expression_measure, greatestHeight_map_measure, checkHeight, if_neg hlow]
      rw [measure, Expr.height]
  | @group opening closing tree words nesting hopening _ hclosing ih =>
      intro remaining hle rest hrest
      obtain ⟨remaining, rfl⟩ : ∃ smaller, remaining = smaller + 1 := ⟨remaining - 1, by omega⟩
      obtain ⟨lexeme, offset, rfl⟩ := exists_eq_of_kind hopening
      -- The sum inside is read to its end, since a closing parenthesis is no operator.
      have hnext : NextIsNot Token.Kind.continuesSum (closing :: rest) :=
        nextIsNot_cons (by rw [hclosing]; rfl)
      have hinner := (ih hheight remaining (by omega)).nested hnext
      simp only [List.cons_append, List.append_assoc, List.nil_append, Syntax.primary, hinner,
        ok_bind, expect_cons hclosing, pure_eq_ok]
  | noArguments =>
      intro remaining hle hne
      exact absurd rfl hne
  | @lastArgument tree words nesting _ ih =>
      intro remaining hle _ comma closing hcomma hclosing after
      obtain ⟨remaining, rfl⟩ : ∃ smaller, remaining = smaller + 1 := ⟨remaining - 1, by omega⟩
      have hnext : NextIsNot Token.Kind.continuesSum (closing :: after) :=
        nextIsNot_cons (by rw [hclosing]; rfl)
      have hfirst := (ih (by simpa [Phrase.height, Expr.greatestHeight] using hheight) remaining
        (by omega)).nested hnext
      have hend : NextIsNot (fun kind => kind = .comma) (closing :: after) :=
        nextIsNot_cons (by rw [hclosing]; rfl)
      rw [moreArguments_measure hcomma hfirst, moreArguments_of_nextIsNot hend]
      rfl
  | @moreArguments tree trees before rest separator m n _ hseparator _ hne ihfirst ihothers =>
      intro remaining hle _ comma closing hcomma hclosing after
      have hle := Nat.max_le.1 hle
      obtain ⟨remaining, rfl⟩ : ∃ smaller, remaining = smaller + 1 := ⟨remaining - 1, by omega⟩
      rw [Phrase.height, Expr.greatestHeight] at hheight
      have hheight := Nat.max_le.1 hheight
      have hnext : NextIsNot Token.Kind.continuesSum (separator :: (rest ++ closing :: after)) :=
        nextIsNot_cons (by rw [hseparator]; rfl)
      have hfirst := (ihfirst hheight.1 remaining (by omega)).nested hnext
      have hothers := ihothers hheight.2 (remaining + 1) hle.2 hne separator closing hseparator
        hclosing after
      rw [List.append_assoc, List.cons_append, moreArguments_measure hcomma hfirst, hothers]
      rfl

/-! ## Statements -/

variable {limits : Limits}

theorem Forms.expression {tree : Expr} {words rest : List Token} {nesting : Nat}
    (hforms : Forms (.sum tree) words nesting) (hheight : tree.height ≤ limits.height)
    (hnesting : nesting < limits.nesting) (hrest : NextIsNot Token.Kind.continuesSum rest) :
    Syntax.expression limits (words ++ rest) = .ok (tree, rest) := by
  obtain ⟨remaining, hremaining⟩ : ∃ smaller, limits.nesting = smaller + 1 :=
    ⟨limits.nesting - 1, by omega⟩
  have hread := (hforms.isRead hheight remaining (by omega)).nested hrest
  rw [Syntax.expression, hremaining, hread]
  rfl

/-- An expression and the semicolon after it are read together. -/
theorem Forms.expression_endStatement {tree : Expr} {words : List Token} {nesting : Nat}
    {semicolon : Token} (place : Place) (statement : Expr → Stmt) (rest : List Token)
    (hforms : Forms (.sum tree) words nesting) (hheight : tree.height ≤ limits.height)
    (hnesting : nesting < limits.nesting) (hsemicolon : semicolon.kind = .semicolon) :
    (Syntax.expression limits (words ++ semicolon :: rest) >>= fun result =>
      endStatement place (statement result.1) result.2) = .ok (statement tree, rest) := by
  have hnext : NextIsNot Token.Kind.continuesSum (semicolon :: rest) :=
    nextIsNot_cons (by rw [hsemicolon]; rfl)
  rw [hforms.expression hheight hnesting hnext, ok_bind, endStatement_cons hsemicolon]

/-- Words that begin like an expression and hold no assignment are read as an expression. -/
theorem statement_eq_evaluate {first : Token} {words : List Token}
    (hfirst : first.kind.startsExpression = true)
    (hsecond : NextIsNot (fun kind => kind = .assign) words) :
    Syntax.statement limits (first :: words) =
      (Syntax.expression limits (first :: words) >>= fun result =>
        endStatement .afterExpression (.evaluate result.1) result.2) := by
  by_cases hname : first.kind = .identifier
  · obtain ⟨lexeme, offset, rfl⟩ := exists_eq_of_kind hname
    exact statement_name hsecond
  · refine statement_of_nextIsNot (nextIsNot_cons ?_)
    cases hkind : first.kind <;> simp_all [Token.Kind.startsExpression, decidesStatement]

theorem FormsStatement.statement {statement : Stmt} {words : List Token} {nesting : Nat}
    (hforms : FormsStatement statement words nesting)
    (hheight : ∀ expression ∈ statement.expressions, expression.height ≤ limits.height)
    (hnesting : nesting < limits.nesting) (rest : List Token) :
    Syntax.statement limits (words ++ rest) = .ok (statement, rest) := by
  cases hforms with
  | @declare int name semicolon hint hname hsemicolon =>
      obtain ⟨lexeme, offset, rfl⟩ := exists_eq_of_kind hint
      obtain ⟨lexeme, offset, rfl⟩ := exists_eq_of_kind hsemicolon
      simp only [List.cons_append, List.nil_append, Syntax.statement, name_cons hname, ok_bind]
      exact endStatement_cons rfl
  | @declareWith int name assign semicolon init words nesting hint hname hassign hinit
      hsemicolon =>
      obtain ⟨lexeme, offset, rfl⟩ := exists_eq_of_kind hint
      obtain ⟨lexeme, offset, rfl⟩ := exists_eq_of_kind hassign
      simp only [List.cons_append, List.append_assoc, List.nil_append, Syntax.statement,
        name_cons hname, ok_bind]
      exact hinit.expression_endStatement _ (fun init => .declare _ (some init)) rest
        (hheight init (by simp [Stmt.expressions])) hnesting hsemicolon
  | @assign name assign semicolon value words nesting hname hassign hvalue hsemicolon =>
      obtain ⟨lexeme, offset, rfl⟩ := exists_eq_of_kind hname
      obtain ⟨sign, start, rfl⟩ := exists_eq_of_kind hassign
      simp only [List.cons_append, List.append_assoc, List.nil_append, Syntax.statement]
      exact hvalue.expression_endStatement _ (fun value => .assign _ value) rest
        (hheight value (by simp [Stmt.expressions])) hnesting hsemicolon
  | @returns word semicolon hword hsemicolon =>
      obtain ⟨lexeme, offset, rfl⟩ := exists_eq_of_kind hword
      obtain ⟨sign, start, rfl⟩ := exists_eq_of_kind hsemicolon
      exact endStatement_cons rfl
  | @returnsValue word semicolon value words nesting hword hvalue hsemicolon =>
      obtain ⟨lexeme, offset, rfl⟩ := exists_eq_of_kind hword
      obtain ⟨first, others, hwords, hfirst⟩ := hvalue.exists_eq_cons (by simp)
      have hnext : NextIsNot (fun kind => kind = .semicolon) (words ++ semicolon :: rest) := by
        rw [hwords]
        refine nextIsNot_cons ?_
        cases hkind : first.kind <;> simp_all [Token.Kind.startsExpression]
      rw [List.cons_append, List.append_assoc, List.cons_append, List.nil_append,
        statement_return hnext]
      exact hvalue.expression_endStatement _ (fun value => .returns (some value)) rest
        (hheight value (by simp [Stmt.expressions])) hnesting hsemicolon
  | @evaluate semicolon value words nesting hvalue hsemicolon =>
      obtain ⟨first, others, rfl, hfirst⟩ := hvalue.exists_eq_cons (by simp)
      -- If the expression begins with a name, the word after it must not be taken for the sign
      -- of an assignment.
      have hsecond : NextIsNot (fun kind => kind = .assign) (others ++ semicolon :: rest) := by
        cases others with
        | nil => exact nextIsNot_cons (by rw [hsemicolon]; rfl)
        | cons next others =>
            have hstands := hvalue.standsInExpression next (by simp)
            refine nextIsNot_cons ?_
            cases hkind : next.kind <;> simp_all [Token.Kind.standsInExpression]
      rw [List.append_assoc, List.cons_append, List.cons_append, List.nil_append,
        statement_eq_evaluate hfirst hsecond]
      exact hvalue.expression_endStatement _ .evaluate rest
        (hheight value (by simp [Stmt.expressions])) hnesting hsemicolon

/-! ## Functions and programs -/

/-- No statement begins with the brace that ends a body. -/
theorem FormsStatement.exists_eq_cons {statement : Stmt} {words : List Token} {nesting : Nat}
    (hforms : FormsStatement statement words nesting) :
    ∃ first rest, words = first :: rest ∧ first.kind ≠ .rightBrace := by
  cases hforms with
  | declare hint _ _ => exact ⟨_, _, rfl, by simp [hint]⟩
  | declareWith hint _ _ _ _ => exact ⟨_, _, rfl, by simp [hint]⟩
  | assign hname _ _ _ => exact ⟨_, _, rfl, by simp [hname]⟩
  | returns hword _ => exact ⟨_, _, rfl, by simp [hword]⟩
  | returnsValue hword _ _ => exact ⟨_, _, rfl, by simp [hword]⟩
  | evaluate hvalue _ =>
      obtain ⟨first, rest, rfl, hfirst⟩ := hvalue.exists_eq_cons (by simp)
      refine ⟨first, _, rfl, fun hkind => ?_⟩
      simp [hkind, Token.Kind.startsExpression] at hfirst

theorem FormsEach.body {statements : List Stmt} {words : List Token} {nesting : Nat}
    (hforms : FormsEach FormsStatement statements words nesting)
    (hheight : ∀ expression ∈ statements.flatMap Stmt.expressions,
      expression.height ≤ limits.height)
    (hnesting : nesting < limits.nesting) {stop : Token} (hstop : stop.kind = .rightBrace)
    (rest : List Token) :
    Syntax.body limits (words ++ stop :: rest) = .ok (statements, rest) := by
  induction hforms with
  | nil =>
      obtain ⟨lexeme, offset, rfl⟩ := exists_eq_of_kind hstop
      rw [List.nil_append, Syntax.body]
  | @cons statement statements before after m n hfirst _ ih =>
      have hnesting := Nat.max_lt.1 hnesting
      rw [List.flatMap_cons, List.forall_mem_append] at hheight
      have hread := hfirst.statement hheight.1 hnesting.1 (after ++ stop :: rest)
      -- The reader of a body decides by the first word of the statement.
      obtain ⟨word, others, rfl, hword⟩ := hfirst.exists_eq_cons
      rw [List.append_assoc]
      rw [List.cons_append] at hread ⊢
      rw [body_cons hword, hread, ok_bind, ih hheight.2 hnesting.2, ok_bind]

theorem FormsFunction.function {function : Function} {words : List Token} {nesting : Nat}
    (hforms : FormsFunction function words nesting)
    (hheight : ∀ expression ∈ function.expressions, expression.height ≤ limits.height)
    (hnesting : nesting < limits.nesting) (rest : List Token) :
    Syntax.function limits (words ++ rest) = .ok (function, rest) := by
  obtain ⟨hint, hname, hopening, hclosing, hstart, hbody, hstop⟩ := hforms
  simp only [List.cons_append, List.append_assoc, List.nil_append, Syntax.function,
    expect_cons hint, name_cons hname, expect_cons hopening, expect_cons hclosing,
    expect_cons hstart, hbody.body hheight hnesting hstop, ok_bind, pure_eq_ok]

theorem FormsFunction.exists_eq_cons {function : Function} {words : List Token} {nesting : Nat}
    (hforms : FormsFunction function words nesting) : ∃ first rest, words = first :: rest := by
  obtain ⟨_, _, _, _, _, _, _⟩ := hforms
  exact ⟨_, _, rfl⟩

/-- Functions are read whatever comes after them, and then that is read. -/
theorem FormsEach.functions_append {functions : List Function} {words : List Token} {nesting : Nat}
    (hforms : FormsEach FormsFunction functions words nesting)
    (hheight : ∀ expression ∈ functions.flatMap Function.expressions,
      expression.height ≤ limits.height)
    (hnesting : nesting < limits.nesting) (rest : List Token) :
    Syntax.functions limits (words ++ rest) =
      (Syntax.functions limits rest).map (functions ++ ·) := by
  induction hforms with
  | nil =>
      rw [List.nil_append]
      cases Syntax.functions limits rest <;> rfl
  | @cons function functions before after m n hfirst _ ih =>
      have hnesting := Nat.max_lt.1 hnesting
      rw [List.flatMap_cons, List.forall_mem_append] at hheight
      have hread := hfirst.function hheight.1 hnesting.1 (after ++ rest)
      obtain ⟨word, others, rfl⟩ := hfirst.exists_eq_cons
      rw [List.append_assoc]
      rw [List.cons_append] at hread ⊢
      rw [functions_cons, hread, ok_bind, ih hheight.2 hnesting.2]
      cases Syntax.functions limits rest <;> rfl

theorem FormsEach.functions {functions : List Function} {words : List Token} {nesting : Nat}
    (hforms : FormsEach FormsFunction functions words nesting)
    (hheight : ∀ expression ∈ functions.flatMap Function.expressions,
      expression.height ≤ limits.height)
    (hnesting : nesting < limits.nesting) :
    Syntax.functions limits words = .ok functions := by
  have hread := hforms.functions_append hheight hnesting []
  rw [List.append_nil, Syntax.functions] at hread
  exact hread.trans (congrArg Except.ok (List.append_nil functions))

end Grammar

end TinyC
