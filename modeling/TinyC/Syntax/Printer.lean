import TinyC.Syntax
import TinyC.Text.Quoted

/-!
# Constructor form

The form in which a syntax tree is shown: the name of each node with its parts
in parentheses, as in `Binary("-", Number(1), Number(2))`, lists in square
brackets, and names and strings quoted.
-/

namespace TinyC

/-- Items between square brackets, separated by commas. -/
def bracketed (items : List String) : String := "[" ++ ", ".intercalate items ++ "]"

namespace Expr

mutual

/-- An expression in constructor form. -/
def constructorForm : Expr → String
  | .number value => "Number(" ++ Numeral.ofInt value.toInt ++ ")"
  | .name identifier => "Name(" ++ Quoted.text identifier ++ ")"
  | .string value => "String(" ++ Quoted.text value ++ ")"
  | .binary operator left right =>
      "Binary(" ++ Quoted.text operator.sign ++ ", " ++ left.constructorForm ++ ", " ++
        right.constructorForm ++ ")"
  | .call function arguments =>
      "Call(" ++ Quoted.text function ++ ", " ++ bracketed (constructorForms arguments) ++ ")"

/-- The expressions of a list in constructor form. -/
def constructorForms : List Expr → List String
  | [] => []
  | argument :: rest => argument.constructorForm :: constructorForms rest

end

end Expr

/-- A statement in constructor form. -/
def Stmt.constructorForm : Stmt → String
  | .declare name none => "VarDecl(" ++ Quoted.text name ++ ")"
  | .declare name (some init) => "VarDecl(" ++ Quoted.text name ++ ", " ++ init.constructorForm ++ ")"
  | .assign name value => "Assign(" ++ Quoted.text name ++ ", " ++ value.constructorForm ++ ")"
  | .returns none => "Return()"
  | .returns (some value) => "Return(" ++ value.constructorForm ++ ")"
  | .evaluate expression => "ExprStmt(" ++ expression.constructorForm ++ ")"

/-- A function in constructor form. -/
def Function.constructorForm (function : Function) : String :=
  "Function(" ++ Quoted.text function.name ++ ", " ++
    bracketed (function.body.map Stmt.constructorForm) ++ ")"

/-- A program in constructor form. -/
def Program.constructorForm (program : Program) : String :=
  "Program(" ++ bracketed (program.functions.map Function.constructorForm) ++ ")"

end TinyC
