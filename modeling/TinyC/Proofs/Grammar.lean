import TinyC.Syntax.Parser

/-!
# The grammar

Which words form a program, said without reading them from left to right:

    Program   = Function*
    Function  = int NAME ( ) { Statement* }
    Statement = int NAME [= Sum] ;  |  NAME = Sum ;  |  return [Sum] ;  |  Sum ;
    Sum       = [Sum +|-] Product
    Product   = [Product *|/] Primary
    Primary   = NUMBER | STRING | NAME | NAME ( [Sum (, Sum)*] ) | ( Sum )

A sum with an operator ends in a product, and a product with an operator in a
primary, so operators of one layer group to the left and those of the tighter
layer bind first.  Parentheses for grouping leave no node in the tree.

A derivation has a *nesting*: the largest number of parentheses, for grouping or
around arguments, that stand open around an expression in it.  Nothing limits
the nesting or the height of a tree here; the readers do.
-/

namespace TinyC

/-! ## Operators as words -/

namespace Operator

/-- The kind of the word with which an operator is written. -/
def kind : Operator → Token.Kind
  | .add => .plus
  | .sub => .minus
  | .mul => .star
  | .div => .slash

/-- Whether an operator belongs to the tighter layer. -/
def isTight : Operator → Bool
  | .add | .sub => false
  | .mul | .div => true

end Operator

namespace Token.Kind

/-- The kinds with which an expression begins. -/
def startsExpression : Kind → Bool
  | .number | .string | .identifier | .leftParen => true
  | _ => false

/-- The kinds that occur in expressions. -/
def standsInExpression : Kind → Bool
  | .number | .string | .identifier | .leftParen | .rightParen | .comma => true
  | .plus | .minus | .star | .slash => true
  | _ => false

theorem standsInExpression_operator (operator : Operator) :
    operator.kind.standsInExpression = true := by
  cases operator <;> rfl

end Token.Kind

namespace Syntax

theorem additive?_eq_some_iff {kind : Token.Kind} {operator : Operator} :
    additive? kind = some operator ↔ operator.isTight = false ∧ kind = operator.kind := by
  cases kind <;> cases operator <;> simp [additive?, Operator.kind, Operator.isTight]

theorem multiplicative?_eq_some_iff {kind : Token.Kind} {operator : Operator} :
    multiplicative? kind = some operator ↔ operator.isTight = true ∧ kind = operator.kind := by
  cases kind <;> cases operator <;> simp [multiplicative?, Operator.kind, Operator.isTight]

end Syntax

namespace Grammar

/-! ## Expressions -/

/-- A part of an expression in the grammar, with the tree or trees that it stands for. -/
inductive Phrase
  | sum (tree : Expr)
  | product (tree : Expr)
  | primary (tree : Expr)
  | arguments (trees : List Expr)

/-- The words form the phrase, with the given nesting. -/
inductive Forms : Phrase → List Token → Nat → Prop
  | sumOfProduct {tree : Expr} {words : List Token} {nesting : Nat} :
      Forms (.product tree) words nesting → Forms (.sum tree) words nesting
  | sumOfSign {operator : Operator} {left right : Expr} {before after : List Token} {sign : Token}
      {m n : Nat} :
      Forms (.sum left) before m → operator.isTight = false → sign.kind = operator.kind →
        Forms (.product right) after n →
        Forms (.sum (.binary operator left right)) (before ++ sign :: after) (max m n)
  | productOfPrimary {tree : Expr} {words : List Token} {nesting : Nat} :
      Forms (.primary tree) words nesting → Forms (.product tree) words nesting
  | productOfSign {operator : Operator} {left right : Expr} {before after : List Token}
      {sign : Token} {m n : Nat} :
      Forms (.product left) before m → operator.isTight = true → sign.kind = operator.kind →
        Forms (.primary right) after n →
        Forms (.product (.binary operator left right)) (before ++ sign :: after) (max m n)
  | number {word : Token} {value : Int64} :
      word.kind = .number → Numeral.toInt64? word.lexeme.toList = some value →
        Forms (.primary (.number value)) [word] 0
  | string {word : Token} :
      word.kind = .string → Forms (.primary (.string word.lexeme)) [word] 0
  | name {word : Token} :
      word.kind = .identifier → Forms (.primary (.name word.lexeme)) [word] 0
  | call {function opening closing : Token} {trees : List Expr} {words : List Token}
      {nesting : Nat} :
      function.kind = .identifier → opening.kind = .leftParen →
        Forms (.arguments trees) words nesting → closing.kind = .rightParen →
        Forms (.primary (.call function.lexeme trees))
          (function :: opening :: (words ++ [closing])) nesting
  | group {opening closing : Token} {tree : Expr} {words : List Token} {nesting : Nat} :
      opening.kind = .leftParen → Forms (.sum tree) words nesting → closing.kind = .rightParen →
        Forms (.primary tree) (opening :: (words ++ [closing])) (nesting + 1)
  | noArguments : Forms (.arguments []) [] 0
  | lastArgument {tree : Expr} {words : List Token} {nesting : Nat} :
      Forms (.sum tree) words nesting → Forms (.arguments [tree]) words (nesting + 1)
  | moreArguments {tree : Expr} {trees : List Expr} {before after : List Token} {comma : Token}
      {m n : Nat} :
      Forms (.sum tree) before m → comma.kind = .comma → Forms (.arguments trees) after n →
        trees ≠ [] → Forms (.arguments (tree :: trees)) (before ++ comma :: after) (max (m + 1) n)

/-! ## Statements, functions, programs -/

/-- The words form the statement, with the given nesting. -/
inductive FormsStatement : Stmt → List Token → Nat → Prop
  | declare {int name semicolon : Token} :
      int.kind = .intKeyword → name.kind = .identifier → semicolon.kind = .semicolon →
        FormsStatement (.declare name.lexeme none) [int, name, semicolon] 0
  | declareWith {int name assign semicolon : Token} {init : Expr} {words : List Token}
      {nesting : Nat} :
      int.kind = .intKeyword → name.kind = .identifier → assign.kind = .assign →
        Forms (.sum init) words nesting → semicolon.kind = .semicolon →
        FormsStatement (.declare name.lexeme (some init))
          (int :: name :: assign :: (words ++ [semicolon])) nesting
  | assign {name assign semicolon : Token} {value : Expr} {words : List Token} {nesting : Nat} :
      name.kind = .identifier → assign.kind = .assign → Forms (.sum value) words nesting →
        semicolon.kind = .semicolon →
        FormsStatement (.assign name.lexeme value)
          (name :: assign :: (words ++ [semicolon])) nesting
  | returns {word semicolon : Token} :
      word.kind = .returnKeyword → semicolon.kind = .semicolon →
        FormsStatement (.returns none) [word, semicolon] 0
  | returnsValue {word semicolon : Token} {value : Expr} {words : List Token} {nesting : Nat} :
      word.kind = .returnKeyword → Forms (.sum value) words nesting →
        semicolon.kind = .semicolon →
        FormsStatement (.returns (some value)) (word :: (words ++ [semicolon])) nesting
  | evaluate {semicolon : Token} {value : Expr} {words : List Token} {nesting : Nat} :
      Forms (.sum value) words nesting → semicolon.kind = .semicolon →
        FormsStatement (.evaluate value) (words ++ [semicolon]) nesting

/-- The words form the items one after another, with the given nesting. -/
inductive FormsEach {α : Type} (forms : α → List Token → Nat → Prop) :
    List α → List Token → Nat → Prop
  | nil : FormsEach forms [] [] 0
  | cons {item : α} {items : List α} {before after : List Token} {m n : Nat} :
      forms item before m → FormsEach forms items after n →
        FormsEach forms (item :: items) (before ++ after) (max m n)

/-- The words form the function, with the given nesting. -/
inductive FormsFunction : Function → List Token → Nat → Prop
  | intro {int name opening closing start stop : Token} {body : List Stmt} {words : List Token}
      {nesting : Nat} :
      int.kind = .intKeyword → name.kind = .identifier → opening.kind = .leftParen →
        closing.kind = .rightParen → start.kind = .leftBrace →
        FormsEach FormsStatement body words nesting → stop.kind = .rightBrace →
        FormsFunction ⟨name.lexeme, body⟩
          (int :: name :: opening :: closing :: start :: (words ++ [stop])) nesting

/-- The words form the program, with the given nesting. -/
def FormsProgram (program : Program) (words : List Token) (nesting : Nat) : Prop :=
  FormsEach FormsFunction program.functions words nesting

/-! ## The expressions of a program -/

end Grammar

/-- The expressions that stand in a statement. -/
def Stmt.expressions : Stmt → List Expr
  | .declare _ init => init.toList
  | .assign _ value => [value]
  | .returns value => value.toList
  | .evaluate expression => [expression]

/-- The expressions that stand in a function. -/
def Function.expressions (function : Function) : List Expr :=
  function.body.flatMap Stmt.expressions

/-- The expressions that stand in a program. -/
def Program.expressions (program : Program) : List Expr :=
  program.functions.flatMap Function.expressions

namespace Grammar

/-! ## What the words of an expression are -/

/-- An expression begins with a word that begins expressions. -/
theorem Forms.exists_eq_cons {phrase : Phrase} {words : List Token} {nesting : Nat}
    (hforms : Forms phrase words nesting) (hphrase : phrase ≠ .arguments []) :
    ∃ first rest, words = first :: rest ∧ first.kind.startsExpression = true := by
  induction hforms with
  | sumOfProduct _ ih => exact ih (by simp)
  | productOfPrimary _ ih => exact ih (by simp)
  | sumOfSign _ _ _ _ ih _ =>
      obtain ⟨first, rest, rfl, hfirst⟩ := ih (by simp)
      exact ⟨first, _, rfl, hfirst⟩
  | productOfSign _ _ _ _ ih _ =>
      obtain ⟨first, rest, rfl, hfirst⟩ := ih (by simp)
      exact ⟨first, _, rfl, hfirst⟩
  | number hkind _ => exact ⟨_, _, rfl, by rw [hkind]; rfl⟩
  | string hkind => exact ⟨_, _, rfl, by rw [hkind]; rfl⟩
  | name hkind => exact ⟨_, _, rfl, by rw [hkind]; rfl⟩
  | call hfunction _ _ _ _ => exact ⟨_, _, rfl, by rw [hfunction]; rfl⟩
  | group hopening _ _ _ => exact ⟨_, _, rfl, by rw [hopening]; rfl⟩
  | noArguments => exact absurd rfl hphrase
  | lastArgument _ ih => exact ih (by simp)
  | moreArguments _ _ _ _ ih _ =>
      obtain ⟨first, rest, rfl, hfirst⟩ := ih (by simp)
      exact ⟨first, _, rfl, hfirst⟩

/-- No word of an expression belongs to a statement alone. -/
theorem Forms.standsInExpression {phrase : Phrase} {words : List Token} {nesting : Nat}
    (hforms : Forms phrase words nesting) :
    ∀ word ∈ words, word.kind.standsInExpression = true := by
  induction hforms with
  | sumOfProduct _ ih => exact ih
  | productOfPrimary _ ih => exact ih
  | lastArgument _ ih => exact ih
  | noArguments => simp
  | number hkind _ => simp [hkind, Token.Kind.standsInExpression]
  | string hkind => simp [hkind, Token.Kind.standsInExpression]
  | name hkind => simp [hkind, Token.Kind.standsInExpression]
  | sumOfSign _ _ hsign _ ihleft ihright =>
      simp only [List.mem_append, List.mem_cons]
      rintro word (hword | rfl | hword)
      · exact ihleft word hword
      · rw [hsign]; exact Token.Kind.standsInExpression_operator _
      · exact ihright word hword
  | productOfSign _ _ hsign _ ihleft ihright =>
      simp only [List.mem_append, List.mem_cons]
      rintro word (hword | rfl | hword)
      · exact ihleft word hword
      · rw [hsign]; exact Token.Kind.standsInExpression_operator _
      · exact ihright word hword
  | call hfunction hopening _ hclosing ih =>
      simp only [List.mem_append, List.mem_cons, List.not_mem_nil, or_false]
      rintro word (rfl | rfl | hword | rfl)
      · rw [hfunction]; rfl
      · rw [hopening]; rfl
      · exact ih word hword
      · rw [hclosing]; rfl
  | group hopening _ hclosing ih =>
      simp only [List.mem_append, List.mem_cons, List.not_mem_nil, or_false]
      rintro word (rfl | hword | rfl)
      · rw [hopening]; rfl
      · exact ih word hword
      · rw [hclosing]; rfl
  | moreArguments _ hcomma _ _ ihfirst ihothers =>
      simp only [List.mem_append, List.mem_cons]
      rintro word (hword | rfl | hword)
      · exact ihfirst word hword
      · rw [hcomma]; rfl
      · exact ihothers word hword

theorem Forms.eq_nil_of_noArguments {words : List Token} {nesting : Nat}
    (hforms : Forms (.arguments []) words nesting) : words = [] := by
  cases hforms
  rfl

end Grammar

end TinyC
