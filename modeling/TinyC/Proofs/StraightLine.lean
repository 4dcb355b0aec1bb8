import TinyC.Syntax

/-!
# What straight-line functions compute

Functions whose statements declare, assign, evaluate and return whole numbers,
without bounds on these.  A variable that is declared without a value is zero,
and division rounds towards zero.  Statements are executed in order up to the
first that returns.

The results are optional: there is none where a name is read that was neither
declared nor assigned, where zero divides, and where there are strings and calls.
-/

namespace TinyC

/-- The result of an operator. -/
def Operator.result? : Operator → Int → Int → Option Int
  | .add, left, right => some (left + right)
  | .sub, left, right => some (left - right)
  | .mul, left, right => some (left * right)
  | .div, left, right => if right = 0 then none else some (left.tdiv right)

/-- The value of an expression, when some variables have values, the last one given first. -/
def Expr.result? (store : List (String × Int)) : Expr → Option Int
  | .number value => some value.toInt
  | .name identifier => store.lookup identifier
  | .string _ | .call _ _ => none
  | .binary operator left right =>
      (left.result? store).bind fun left =>
        (right.result? store).bind fun right => operator.result? left right

/-- What statements return when some variables have values: a value, or none, or the end of the
statements is reached, which is like returning none. -/
def Stmt.returned? (store : List (String × Int)) : List Stmt → Option (Option Int)
  | [] => some none
  | .declare name none :: rest => returned? ((name, 0) :: store) rest
  | .declare name (some init) :: rest =>
      (init.result? store).bind fun value => returned? ((name, value) :: store) rest
  | .assign name value :: rest =>
      (value.result? store).bind fun value => returned? ((name, value) :: store) rest
  | .returns none :: _ => some none
  | .returns (some value) :: _ => (value.result? store).map some
  | .evaluate expression :: rest =>
      (expression.result? store).bind fun _ => returned? store rest

/-- What a function returns. -/
def Function.returned? (function : Function) : Option (Option Int) :=
  Stmt.returned? [] function.body

end TinyC
