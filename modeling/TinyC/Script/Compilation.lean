import TinyC.Script
import TinyC.Syntax

/-!
# From programs to scripts

Every node of a program has one counterpart in the script.  Identifiers are
renamed where the script cannot use them, a declaration becomes an assignment
whose value is zero unless another is given, and a division becomes a call,
because the script's own division rounds down instead of towards zero.
-/

namespace TinyC.Script

/-- The operator of a script that computes the same, if there is one. -/
def Operator.ofOperator? : TinyC.Operator → Option Operator
  | .add => some .add
  | .sub => some .sub
  | .mul => some .mul
  | .div => none

namespace Expr

mutual

/-- The counterpart of an expression. -/
def ofExpr : TinyC.Expr → Expr
  | .number value => .integer value.toInt
  | .name identifier => .name (nameOf identifier)
  | .string value => .text value
  | .binary operator left right =>
      match Operator.ofOperator? operator with
      | some operator => .arithmetic operator (ofExpr left) (ofExpr right)
      | none => .call divisionName [ofExpr left, ofExpr right]
  | .call function arguments => .call (nameOf function) (ofExprs arguments)

/-- The counterparts of the expressions of a list. -/
def ofExprs : List TinyC.Expr → List Expr
  | [] => []
  | argument :: rest => ofExpr argument :: ofExprs rest

end

end Expr

/-- The counterpart of a statement. -/
def Stmt.ofStmt : TinyC.Stmt → Stmt
  | .declare name init => .assign (nameOf name) ((init.map Expr.ofExpr).getD (.integer 0))
  | .assign name value => .assign (nameOf name) (Expr.ofExpr value)
  | .returns value => .returns (value.map Expr.ofExpr)
  | .evaluate expression => .evaluate (Expr.ofExpr expression)

/-- The counterpart of a body, which is never empty. -/
def bodyOf (body : List TinyC.Stmt) : List Stmt :=
  if body.isEmpty then [.pass] else body.map Stmt.ofStmt

/-- The counterpart of a function. -/
def Definition.ofFunction (function : Function) : Definition :=
  ⟨nameOf function.name, bodyOf function.body⟩

/-- The script of a program.  It starts at the function called `main`, if there is one. -/
def ofProgram (program : Program) : Script where
  definitions := program.functions.map Definition.ofFunction
  entry := if program.hasMain then some (nameOf "main") else none

end TinyC.Script
