import TinyC.Syntax
import TinyC.Syntax.Parser.Rule

/-!
# Reading expressions

    Sum     = Product (+ or - Product)*
    Product = Primary (* or / Primary)*
    Primary = NUMBER | STRING | NAME | NAME ( [Sum (, Sum)*] ) | ( Sum )

Operators of one layer group to the left.  How high an expression may be and in
how many open parentheses it may stand are parameters, the latter as the number
of nestings that may still be opened.

## Strategy

The rules are recursive through parentheses and arguments alone, and each of
these opens one more nesting, so `nested` recurses on the nestings that are
left.  Every other rule takes the one for nested expressions
as a parameter, and the loops recurse on the words.
-/

namespace TinyC.Syntax

/-- An expression together with its height. -/
structure Measured where
  expression : Expr
  height : Nat

/-- Accepts a height up to the limit. -/
def checkHeight (limit height : Nat) (rest : List Token) : Except Failure Nat :=
  if limit < height then .error ⟨.lowerExpression, rest⟩ else .ok height

/-- The operators of the looser layer. -/
def additive? : Token.Kind → Option Operator
  | .plus => some .add
  | .minus => some .sub
  | _ => none

/-- The operators of the tighter layer. -/
def multiplicative? : Token.Kind → Option Operator
  | .star => some .mul
  | .slash => some .div
  | _ => none

/-- Reads operators of one layer and their right operands, and groups them to the left. -/
def operations (limit : Nat) (operator? : Token.Kind → Option Operator) (operand : Rule Measured)
    (left : Measured) (words : List Token) : Except Failure (Measured × List Token) :=
  match words with
  | [] => .ok (left, [])
  | word :: rest =>
      match operator? word.kind with
      | none => .ok (left, word :: rest)
      | some operator =>
          match _hright : operand.read rest with
          | .error failure => .error failure
          | .ok (right, after) => do
              let height ← checkHeight limit (max left.height right.height + 1) after
              operations limit operator? operand
                ⟨.binary operator left.expression right.expression, height⟩ after
termination_by words.length
decreasing_by
  have := operand.shorter _hright
  simp only [List.length_cons]
  omega

theorem length_of_operations {limit : Nat} {operator? : Token.Kind → Option Operator}
    {operand : Rule Measured} {left value : Measured} {words rest : List Token}
    (hread : operations limit operator? operand left words = .ok (value, rest)) :
    rest.length ≤ words.length := by
  fun_induction operations limit operator? operand left words with
  | case1 left => simp_all
  | case2 left word tail hnone => simp_all
  | case3 left word tail operator hsome failure hright => simp at hread
  | case4 left word tail operator hsome right after hright ih =>
      have hshorter := operand.shorter hright
      cases hheight : checkHeight limit (max left.height right.height + 1) after with
      | error failure => simp [hheight, bind, Except.bind] at hread
      | ok height =>
          have := ih height (by simpa [hheight, bind, Except.bind] using hread)
          simp only [List.length_cons]
          omega

/-- Operands of one layer with operators between them. -/
def layer (limit : Nat) (operator? : Token.Kind → Option Operator) (operand : Rule Measured) :
    Rule Measured where
  read words :=
    match operand.read words with
    | .error failure => .error failure
    | .ok (left, rest) => operations limit operator? operand left rest
  shorter := by
    intro words rest value hread
    split at hread
    · simp at hread
    · have := operand.shorter (by assumption)
      have := length_of_operations hread
      omega

/-- Reads further arguments, each after a comma. -/
def moreArguments (nested : Rule Measured) (words : List Token) :
    Except Failure (List Measured × List Token) :=
  match words with
  | [] => .ok ([], [])
  | word :: rest =>
      if word.kind = .comma then
        match _hfirst : nested.read rest with
        | .error failure => .error failure
        | .ok (first, after) => do
            let (others, after) ← moreArguments nested after
            return (first :: others, after)
      else .ok ([], word :: rest)
termination_by words.length
decreasing_by
  have := nested.shorter _hfirst
  simp only [List.length_cons]
  omega

/-- Reads the arguments of a call up to the parenthesis that closes them. -/
def callArguments (nested : Rule Measured) (words : List Token) :
    Except Failure (List Measured × List Token) :=
  match words with
  | ⟨.rightParen, _, _⟩ :: _ => .ok ([], words)
  | _ => do
      let (first, rest) ← nested.read words
      let (others, rest) ← moreArguments nested rest
      return (first :: others, rest)

/-- The height of the highest argument, or zero. -/
def greatestHeight (arguments : List Measured) : Nat :=
  arguments.foldr (fun argument height => max argument.height height) 0

/-- Reads what a name begins: a call if a parenthesis follows, or the name itself. -/
def nameOrCall (limit : Nat) (nested : Rule Measured) (name : String) (words : List Token) :
    Except Failure (Measured × List Token) :=
  match words with
  | ⟨.leftParen, _, _⟩ :: rest => do
      let (arguments, rest) ← callArguments nested rest
      let (_, rest) ← expect .rightParen (.tokenAt .rightParen .afterArguments) rest
      let height ← checkHeight limit (greatestHeight arguments + 1) rest
      return (⟨.call name (arguments.map Measured.expression), height⟩, rest)
  | _ => .ok (⟨.name name, 1⟩, words)

/-- Reads a literal, a name, a call, or an expression in parentheses. -/
def primary (limit : Nat) (nested : Rule Measured) (words : List Token) :
    Except Failure (Measured × List Token) :=
  match words with
  | ⟨.number, lexeme, _⟩ :: rest =>
      match Numeral.toInt64? lexeme.toList with
      | some value => .ok (⟨.number value, 1⟩, rest)
      | none => .error ⟨.integerThatFits, words⟩
  | ⟨.string, lexeme, _⟩ :: rest => .ok (⟨.string lexeme, 1⟩, rest)
  | ⟨.identifier, lexeme, _⟩ :: rest => nameOrCall limit nested lexeme rest
  | ⟨.leftParen, _, _⟩ :: rest => do
      let (inner, rest) ← nested.read rest
      let (_, rest) ← expect .rightParen (.token .rightParen) rest
      return (inner, rest)
  | _ => .error ⟨.expression, words⟩

theorem length_of_moreArguments {nested : Rule Measured} {words rest : List Token}
    {arguments : List Measured} (hread : moreArguments nested words = .ok (arguments, rest)) :
    rest.length ≤ words.length := by
  fun_induction moreArguments nested words generalizing arguments rest with
  | case1 => simp_all
  | case2 word tail hcomma failure hfirst => simp at hread
  | case3 word tail hcomma first after hfirst ih =>
      have hshorter := nested.shorter hfirst
      obtain ⟨⟨others, final⟩, hothers, hreturn⟩ := ok_of_bind hread
      have := ih hothers
      simp only [pure, Except.pure, Except.ok.injEq, Prod.mk.injEq] at hreturn
      obtain ⟨rfl, rfl⟩ := hreturn
      simp only [List.length_cons]
      omega
  | case4 word tail hcomma => simp_all

theorem length_of_callArguments {nested : Rule Measured} {words rest : List Token}
    {arguments : List Measured} (hread : callArguments nested words = .ok (arguments, rest)) :
    rest.length ≤ words.length := by
  unfold callArguments at hread
  split at hread
  · simp_all
  · obtain ⟨⟨first, after⟩, hfirst, hread⟩ := ok_of_bind hread
    obtain ⟨⟨others, final⟩, hothers, hreturn⟩ := ok_of_bind hread
    simp only [pure, Except.pure, Except.ok.injEq, Prod.mk.injEq] at hreturn
    obtain ⟨rfl, rfl⟩ := hreturn
    have := nested.shorter hfirst
    have := length_of_moreArguments hothers
    omega

theorem length_of_nameOrCall {limit : Nat} {nested : Rule Measured} {name : String}
    {words rest : List Token} {value : Measured}
    (hread : nameOrCall limit nested name words = .ok (value, rest)) :
    rest.length ≤ words.length := by
  unfold nameOrCall at hread
  split at hread
  · obtain ⟨⟨arguments, after⟩, harguments, hread⟩ := ok_of_bind hread
    obtain ⟨⟨closing, final⟩, hclosing, hread⟩ := ok_of_bind hread
    obtain ⟨height, hheight, hreturn⟩ := ok_of_bind hread
    simp only [pure, Except.pure, Except.ok.injEq, Prod.mk.injEq] at hreturn
    obtain ⟨rfl, rfl⟩ := hreturn
    have := length_of_callArguments harguments
    have := congrArg List.length (eq_cons_of_expect hclosing).1
    simp only [List.length_cons] at *
    omega
  · simp_all

theorem length_of_primary {limit : Nat} {nested : Rule Measured} {words rest : List Token}
    {value : Measured} (hread : primary limit nested words = .ok (value, rest)) :
    rest.length < words.length := by
  unfold primary at hread
  split at hread
  · split at hread
    · simp_all
    · simp at hread
  · simp_all
  · have := length_of_nameOrCall hread
    simp only [List.length_cons]
    omega
  · obtain ⟨⟨inner, after⟩, hinner, hread⟩ := ok_of_bind hread
    obtain ⟨⟨closing, final⟩, hclosing, hreturn⟩ := ok_of_bind hread
    simp only [pure, Except.pure, Except.ok.injEq, Prod.mk.injEq] at hreturn
    obtain ⟨rfl, rfl⟩ := hreturn
    have := nested.shorter hinner
    have := congrArg List.length (eq_cons_of_expect hclosing).1
    simp only [List.length_cons] at *
    omega
  · simp at hread

/-- Primaries with operators of the tighter layer between them. -/
def product (limit : Nat) (nested : Rule Measured) : Rule Measured :=
  layer limit multiplicative? ⟨primary limit nested, length_of_primary⟩

/-- Products with operators of the looser layer between them. -/
def sum (limit : Nat) (nested : Rule Measured) : Rule Measured :=
  layer limit additive? (product limit nested)

/-- Reads an expression inside at most the given number of further nestings. -/
def nested (limit : Nat) : Nat → Rule Measured
  | 0 => ⟨fun words => .error ⟨.lowerExpression, words⟩, by simp⟩
  | remaining + 1 => sum limit (nested limit remaining)

/-- Reads a whole expression. -/
def expression (limits : Limits) (words : List Token) : Except Failure (Expr × List Token) := do
  let (measured, rest) ← (nested limits.height limits.nesting).read words
  return (measured.expression, rest)

end TinyC.Syntax
