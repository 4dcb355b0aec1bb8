import TinyC.Syntax.Parser.Expr

/-!
# From tokens to programs

The grammar of the language, read from left to right without backtracking.

    Program   = Function*
    Function  = int NAME ( ) { Statement* }
    Statement = int NAME [= Sum] ;  |  return [Sum] ;  |  NAME = Sum ;  |  Sum ;

Only the tokens before the first end of input are words.  A second word of
lookahead tells an assignment from an expression that begins with a name.  The
limits on expressions are a parameter of every rule; `Program.ofTokens` reads
within those of the language.
-/

namespace TinyC

namespace Syntax

/-! ## Statements and functions -/

/-- Reads the semicolon that ends a statement. -/
def endStatement (place : Place) (statement : Stmt) (words : List Token) :
    Except Failure (Stmt × List Token) := do
  let (_, rest) ← expect .semicolon (.tokenAt .semicolon place) words
  return (statement, rest)

/-- Reads a statement. -/
def statement (limits : Limits) (words : List Token) : Except Failure (Stmt × List Token) :=
  match words with
  | ⟨.intKeyword, _, _⟩ :: rest => do
      let (declared, rest) ← name .variableName rest
      match rest with
      | ⟨.assign, _, _⟩ :: rest =>
          let (init, rest) ← expression limits rest
          endStatement .afterDeclaration (.declare declared (some init)) rest
      | _ => endStatement .afterDeclaration (.declare declared none) rest
  | ⟨.returnKeyword, _, _⟩ :: rest =>
      match rest with
      | ⟨.semicolon, _, _⟩ :: _ => endStatement .afterReturn (.returns none) rest
      | _ => do
          let (value, rest) ← expression limits rest
          endStatement .afterReturn (.returns (some value)) rest
  -- Only the second word tells an assignment from an expression.
  | ⟨.identifier, assigned, _⟩ :: ⟨.assign, _, _⟩ :: rest => do
      let (value, rest) ← expression limits rest
      endStatement .afterAssignment (.assign assigned value) rest
  | _ => do
      let (value, rest) ← expression limits words
      endStatement .afterExpression (.evaluate value) rest

theorem length_of_expression {limits : Limits} {words rest : List Token} {value : Expr}
    (hread : expression limits words = .ok (value, rest)) : rest.length < words.length := by
  obtain ⟨⟨measured, after⟩, hnested, hreturn⟩ := ok_of_bind hread
  simp only [pure, Except.pure, Except.ok.injEq, Prod.mk.injEq] at hreturn
  obtain ⟨rfl, rfl⟩ := hreturn
  exact (nested limits.height limits.nesting).shorter hnested

theorem length_of_endStatement {place : Place} {statement value : Stmt} {words rest : List Token}
    (hread : endStatement place statement words = .ok (value, rest)) :
    rest.length < words.length := by
  obtain ⟨⟨semicolon, after⟩, hsemicolon, hreturn⟩ := ok_of_bind hread
  simp only [pure, Except.pure, Except.ok.injEq, Prod.mk.injEq] at hreturn
  obtain ⟨rfl, rfl⟩ := hreturn
  have := congrArg List.length (eq_cons_of_expect hsemicolon).1
  simp only [List.length_cons] at this
  omega

theorem length_of_name {expected : Expectation} {words rest : List Token} {value : String}
    (hread : name expected words = .ok (value, rest)) : rest.length < words.length := by
  obtain ⟨⟨word, after⟩, hword, hreturn⟩ := ok_of_bind hread
  simp only [pure, Except.pure, Except.ok.injEq, Prod.mk.injEq] at hreturn
  obtain ⟨rfl, rfl⟩ := hreturn
  have := congrArg List.length (eq_cons_of_expect hword).1
  simp only [List.length_cons] at this
  omega

theorem length_of_statement {limits : Limits} {words rest : List Token} {value : Stmt}
    (hread : statement limits words = .ok (value, rest)) : rest.length < words.length := by
  unfold statement at hread
  split at hread
  · obtain ⟨⟨declared, after⟩, hname, hread⟩ := ok_of_bind hread
    have := length_of_name hname
    simp only at hread
    split at hread
    · obtain ⟨⟨init, after⟩, hinit, hread⟩ := ok_of_bind hread
      have := length_of_expression hinit
      have := length_of_endStatement hread
      simp only [List.length_cons] at *
      omega
    · have := length_of_endStatement hread
      simp only [List.length_cons] at *
      omega
  · split at hread
    · have := length_of_endStatement hread
      simp only [List.length_cons] at *
      omega
    · obtain ⟨⟨init, after⟩, hinit, hread⟩ := ok_of_bind hread
      have := length_of_expression hinit
      have := length_of_endStatement hread
      simp only [List.length_cons] at *
      omega
  · obtain ⟨⟨init, after⟩, hinit, hread⟩ := ok_of_bind hread
    have := length_of_expression hinit
    have := length_of_endStatement hread
    simp only [List.length_cons] at *
    omega
  · obtain ⟨⟨init, after⟩, hinit, hread⟩ := ok_of_bind hread
    have := length_of_expression hinit
    have := length_of_endStatement hread
    omega

/-- Reads statements up to the brace that closes the body. -/
def body (limits : Limits) (words : List Token) : Except Failure (List Stmt × List Token) :=
  match words with
  | [] => .error ⟨.tokenAt .rightBrace .endOfBody, []⟩
  | ⟨.rightBrace, _, _⟩ :: rest => .ok ([], rest)
  | word :: rest =>
      match _hfirst : statement limits (word :: rest) with
      | .error failure => .error failure
      | .ok (first, rest) => do
          let (others, rest) ← body limits rest
          return (first :: others, rest)
termination_by words.length
decreasing_by exact length_of_statement _hfirst

/-- Reads a function. -/
def function (limits : Limits) (words : List Token) : Except Failure (Function × List Token) := do
  let (_, rest) ← expect .intKeyword (.tokenAt .intKeyword .startOfFunction) words
  let (name, rest) ← name .functionName rest
  let (_, rest) ← expect .leftParen (.token .leftParen) rest
  let (_, rest) ← expect .rightParen (.token .rightParen) rest
  let (_, rest) ← expect .leftBrace (.token .leftBrace) rest
  let (body, rest) ← body limits rest
  return (⟨name, body⟩, rest)

theorem length_of_body {limits : Limits} {words rest : List Token} {value : List Stmt}
    (hread : body limits words = .ok (value, rest)) : rest.length < words.length := by
  fun_induction body limits words generalizing value rest with
  | case1 => simp at hread
  | case2 lexeme offset tail => simp_all
  | case3 word tail hbrace failure hfirst => simp at hread
  | case4 word tail hbrace first after hfirst ih =>
      have := length_of_statement hfirst
      obtain ⟨⟨others, final⟩, hothers, hreturn⟩ := ok_of_bind hread
      have := ih hothers
      simp only [pure, Except.pure, Except.ok.injEq, Prod.mk.injEq] at hreturn
      obtain ⟨rfl, rfl⟩ := hreturn
      omega

theorem length_of_function {limits : Limits} {words rest : List Token} {value : Function}
    (hread : function limits words = .ok (value, rest)) : rest.length < words.length := by
  obtain ⟨⟨start, rest₁⟩, hstart, hread⟩ := ok_of_bind hread
  obtain ⟨⟨name, rest₂⟩, hname, hread⟩ := ok_of_bind hread
  obtain ⟨⟨opening, rest₃⟩, hopening, hread⟩ := ok_of_bind hread
  obtain ⟨⟨closing, rest₄⟩, hclosing, hread⟩ := ok_of_bind hread
  obtain ⟨⟨brace, rest₅⟩, hbrace, hread⟩ := ok_of_bind hread
  obtain ⟨⟨body, rest₆⟩, hbody, hreturn⟩ := ok_of_bind hread
  simp only [pure, Except.pure, Except.ok.injEq, Prod.mk.injEq] at hreturn
  obtain ⟨rfl, rfl⟩ := hreturn
  have h₁ := congrArg List.length (eq_cons_of_expect hstart).1
  have h₂ := length_of_name hname
  have h₃ := congrArg List.length (eq_cons_of_expect hopening).1
  have h₄ := congrArg List.length (eq_cons_of_expect hclosing).1
  have h₅ := congrArg List.length (eq_cons_of_expect hbrace).1
  have h₆ := length_of_body hbody
  simp only [List.length_cons] at *
  omega

/-- Reads functions up to the last word. -/
def functions (limits : Limits) (words : List Token) : Except Failure (List Function) :=
  match words with
  | [] => .ok []
  | word :: rest =>
      match _hfirst : function limits (word :: rest) with
      | .error failure => .error failure
      | .ok (first, rest) => do
          let others ← functions limits rest
          return first :: others
termination_by words.length
decreasing_by exact length_of_function _hfirst

/-! ## Programs -/

/-- The tokens before the first end of input. -/
def words (tokens : List Token) : List Token :=
  tokens.takeWhile fun token => token.kind ≠ .endOfInput

/-- The first end of input, or one directly after the last token. -/
def stop (tokens : List Token) : Token :=
  (tokens.find? fun token => token.kind = .endOfInput).getD
    (.endAt ((tokens.getLast?.map fun token => token.span.stop).getD 0))

end Syntax

namespace Program

/-- The program that tokens form. -/
def ofTokens (tokens : List Token) : Except SyntaxError Program :=
  match Syntax.functions .standard (Syntax.words tokens) with
  | .ok functions => .ok ⟨functions⟩
  | .error failure =>
      .error ⟨failure.expected, failure.rest.head?.getD (Syntax.stop tokens)⟩

end Program

end TinyC
