import TinyC.Proofs.SourceText

/-!
# What a tree keeps of its words

The grammar copies the lexemes of identifiers and strings into the tree, in the
order of the words, and nothing else into the places for them.
-/

namespace TinyC

/-! ## Lexemes in trees -/

namespace Expr

mutual

/-- The texts in an expression that come from words of one kind, in order. -/
def lexemes (kind : Token.Kind) : Expr → List String
  | .number _ => []
  | .name identifier => if kind = .identifier then [identifier] else []
  | .string value => if kind = .string then [value] else []
  | .binary _ left right => left.lexemes kind ++ right.lexemes kind
  | .call function arguments =>
      (if kind = .identifier then [function] else []) ++ lexemesOfAll kind arguments

/-- The texts in all of the expressions that come from words of one kind. -/
def lexemesOfAll (kind : Token.Kind) : List Expr → List String
  | [] => []
  | argument :: rest => argument.lexemes kind ++ lexemesOfAll kind rest

end

/-- The texts that an expression holds itself and that come from words of one kind. -/
def lexemesHere (kind : Token.Kind) : Expr → List String
  | .name text | .call text _ => if kind = .identifier then [text] else []
  | .string value => if kind = .string then [value] else []
  | .number _ | .binary _ _ _ => []

theorem isCollected_lexemes (kind : Token.Kind) :
    IsCollected operands (lexemesHere kind) (lexemes kind) (lexemesOfAll kind) where
  node expression := by cases expression <;> simp [lexemes, lexemesOfAll, operands, lexemesHere]
  nil := rfl
  cons _ _ := rfl

theorem names_eq_lexemes (expression : Expr) :
    expression.names = expression.lexemes .identifier := by
  refine isCollected_names.eq (isCollected_lexemes .identifier) (fun expression => ?_) expression
  cases expression <;> rfl

end Expr

/-- The texts in a statement that come from words of one kind, in order. -/
def Stmt.lexemes (kind : Token.Kind) : Stmt → List String
  | .declare name init =>
      (if kind = .identifier then [name] else []) ++ init.toList.flatMap (Expr.lexemes kind)
  | .assign name value => (if kind = .identifier then [name] else []) ++ value.lexemes kind
  | .returns value => value.toList.flatMap (Expr.lexemes kind)
  | .evaluate expression => expression.lexemes kind

/-- The texts in a function that come from words of one kind, in order. -/
def Function.lexemes (kind : Token.Kind) (function : Function) : List String :=
  (if kind = .identifier then [function.name] else []) ++
    function.body.flatMap (Stmt.lexemes kind)

/-- The texts in a program that come from words of one kind, in order. -/
def Program.lexemes (kind : Token.Kind) (program : Program) : List String :=
  program.functions.flatMap (Function.lexemes kind)

theorem Stmt.names_eq_lexemes (statement : Stmt) :
    statement.names = statement.lexemes .identifier := by
  cases statement <;> simp [names, lexemes, funext Expr.names_eq_lexemes]

theorem Program.names_eq_lexemes (program : Program) :
    program.names = program.lexemes .identifier := by
  refine congrArg (List.flatMap · program.functions) (funext fun function => ?_)
  rw [Function.names, Function.lexemes, funext Stmt.names_eq_lexemes]
  rfl

/-! ## Lexemes of words -/

namespace Grammar

/-- The lexemes of the words of one kind. -/
def lexemes (kind : Token.Kind) (words : List Token) : List String :=
  words.filterMap fun word => if word.kind = kind then some word.lexeme else none

theorem lexemes_cons (kind : Token.Kind) (word : Token) (words : List Token) :
    lexemes kind (word :: words) =
      (if word.kind = kind then [word.lexeme] else []) ++ lexemes kind words := by
  by_cases hword : word.kind = kind <;> simp [lexemes, hword]

@[simp] theorem lexemes_nil (kind : Token.Kind) : lexemes kind [] = [] := rfl

@[simp] theorem lexemes_append (kind : Token.Kind) (before after : List Token) :
    lexemes kind (before ++ after) = lexemes kind before ++ lexemes kind after :=
  List.filterMap_append

/-- The texts in the tree or trees of a phrase that come from words of one kind. -/
def Phrase.lexemes (kind : Token.Kind) : Phrase → List String
  | .sum tree | .product tree | .primary tree => tree.lexemes kind
  | .arguments trees => Expr.lexemesOfAll kind trees

variable {kind : Token.Kind}

/-- Operators are not kept. -/
theorem lexemes_sign (hkind : kind = .identifier ∨ kind = .string) {operator : Operator}
    {sign : Token} (hsign : sign.kind = operator.kind) (words : List Token) :
    lexemes kind (sign :: words) = lexemes kind words := by
  have hne : sign.kind ≠ kind := by
    rw [hsign]
    obtain rfl | rfl := hkind <;> cases operator <;> simp [Operator.kind]
  rw [lexemes_cons, if_neg hne, List.nil_append]

theorem Forms.lexemes_eq (hkind : kind = .identifier ∨ kind = .string) {phrase : Phrase}
    {words : List Token} {nesting : Nat} (hforms : Forms phrase words nesting) :
    phrase.lexemes kind = Grammar.lexemes kind words := by
  induction hforms with
  | sumOfProduct _ ih => exact ih
  | productOfPrimary _ ih => exact ih
  | lastArgument _ ih => simpa [Phrase.lexemes, Expr.lexemesOfAll] using ih
  | noArguments => rfl
  | number hword _ =>
      obtain rfl | rfl := hkind <;> simp [lexemes_cons, hword, Phrase.lexemes, Expr.lexemes]
  | string hword =>
      obtain rfl | rfl := hkind <;> simp [lexemes_cons, hword, Phrase.lexemes, Expr.lexemes]
  | name hword =>
      obtain rfl | rfl := hkind <;> simp [lexemes_cons, hword, Phrase.lexemes, Expr.lexemes]
  | sumOfSign _ _ hsign _ ihleft ihright =>
      rw [lexemes_append, lexemes_sign hkind hsign, ← ihleft, ← ihright]
      rfl
  | productOfSign _ _ hsign _ ihleft ihright =>
      rw [lexemes_append, lexemes_sign hkind hsign, ← ihleft, ← ihright]
      rfl
  | call hfunction hopening _ hclosing ih =>
      obtain rfl | rfl := hkind <;>
        simp [lexemes_cons, hfunction, hopening, hclosing, ← ih, Phrase.lexemes, Expr.lexemes]
  | group hopening _ hclosing ih =>
      obtain rfl | rfl := hkind <;>
        simpa [lexemes_cons, hopening, hclosing, Phrase.lexemes] using ih
  | moreArguments _ hcomma _ _ ihfirst ihothers =>
      obtain rfl | rfl := hkind <;>
        simp [lexemes_cons, hcomma, ← ihfirst, ← ihothers, Phrase.lexemes, Expr.lexemesOfAll]

theorem FormsStatement.lexemes_eq (hkind : kind = .identifier ∨ kind = .string)
    {statement : Stmt} {words : List Token} {nesting : Nat}
    (hforms : FormsStatement statement words nesting) :
    statement.lexemes kind = Grammar.lexemes kind words := by
  cases hforms with
  | declare hint hname hsemicolon =>
      obtain rfl | rfl := hkind <;>
        simp [lexemes_cons, hint, hname, hsemicolon, Stmt.lexemes]
  | declareWith hint hname hassign hinit hsemicolon =>
      have hinit := hinit.lexemes_eq hkind
      obtain rfl | rfl := hkind <;>
        simpa [lexemes_cons, hint, hname, hassign, hsemicolon, Stmt.lexemes, Phrase.lexemes]
          using hinit
  | assign hname hassign hvalue hsemicolon =>
      have hvalue := hvalue.lexemes_eq hkind
      obtain rfl | rfl := hkind <;>
        simpa [lexemes_cons, hname, hassign, hsemicolon, Stmt.lexemes, Phrase.lexemes]
          using hvalue
  | returns hword hsemicolon =>
      obtain rfl | rfl := hkind <;> simp [lexemes_cons, hword, hsemicolon, Stmt.lexemes]
  | returnsValue hword hvalue hsemicolon =>
      have hvalue := hvalue.lexemes_eq hkind
      obtain rfl | rfl := hkind <;>
        simpa [lexemes_cons, hword, hsemicolon, Stmt.lexemes, Phrase.lexemes] using hvalue
  | evaluate hvalue hsemicolon =>
      have hvalue := hvalue.lexemes_eq hkind
      obtain rfl | rfl := hkind <;>
        simpa [lexemes_cons, hsemicolon, Stmt.lexemes, Phrase.lexemes] using hvalue

theorem FormsEach.lexemes_eq {α : Type} {forms : α → List Token → Nat → Prop}
    {texts : α → List String} {items : List α} {words : List Token} {nesting : Nat}
    (heach : FormsEach forms items words nesting)
    (hforms : ∀ {item words nesting}, forms item words nesting → texts item = lexemes kind words) :
    items.flatMap texts = lexemes kind words := by
  induction heach with
  | nil => rfl
  | cons hfirst _ ih => rw [List.flatMap_cons, hforms hfirst, ih, lexemes_append]

theorem FormsFunction.lexemes_eq (hkind : kind = .identifier ∨ kind = .string)
    {function : Function} {words : List Token} {nesting : Nat}
    (hforms : FormsFunction function words nesting) :
    function.lexemes kind = Grammar.lexemes kind words := by
  obtain ⟨hint, hname, hopening, hclosing, hstart, hbody, hstop⟩ := hforms
  have hbody := hbody.lexemes_eq (FormsStatement.lexemes_eq hkind)
  obtain rfl | rfl := hkind <;>
    simpa [lexemes_cons, hint, hname, hopening, hclosing, hstart, hstop, Function.lexemes]
      using hbody

/-- The identifiers and the strings of a program are those of its words. -/
theorem FormsProgram.lexemes_eq (hkind : kind = .identifier ∨ kind = .string) {program : Program}
    {words : List Token} {nesting : Nat} (hforms : FormsProgram program words nesting) :
    program.lexemes kind = lexemes kind words :=
  FormsEach.lexemes_eq hforms (FormsFunction.lexemes_eq hkind)

end Grammar

end TinyC
