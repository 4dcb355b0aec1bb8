import TinyC.Script.Literal
import TinyC.Script.Name

/-!
# Scripts

A script is what a program is compiled to: definitions of functions without
parameters, and possibly a function at which the script starts.  Every script
begins with the same lines, which define output and truncating division.

A script is written line by line.  A definition has two empty lines before it
and its statements on lines of their own, indented by four spaces; the call of
the first function stands at the end.
-/

namespace TinyC

/-- The operators that scripts share with programs. -/
inductive Script.Operator
  | add
  | sub
  | mul
  deriving DecidableEq, Repr

/-- The sign with which an operator is written. -/
def Script.Operator.sign : Script.Operator → String
  | .add => "+"
  | .sub => "-"
  | .mul => "*"

/-- An expression of a script. -/
inductive Script.Expr
  | integer (value : Int)
  | name (name : String)
  | text (value : String)
  | arithmetic (operator : Script.Operator) (left right : Script.Expr)
  | call (function : String) (arguments : List Script.Expr)
  deriving Repr

/-- A statement of a script. -/
inductive Script.Stmt
  | assign (name : String) (value : Script.Expr)
  | returns (value : Option Script.Expr)
  | evaluate (expression : Script.Expr)
  /-- Does nothing, in a body that would otherwise be empty. -/
  | pass
  deriving Repr

/-- The definition of a function without parameters. -/
structure Script.Definition where
  name : String
  body : List Script.Stmt
  deriving Repr

/-- A whole script.  The entry is the name of the function at which it starts. -/
structure Script where
  definitions : List Script.Definition
  entry : Option String
  deriving Repr

namespace Script

/-! ## Expressions and statements -/

namespace Expr

mutual

/-- The text of an expression.  Parentheses stand around every operation. -/
def code : Expr → String
  | .integer value => Numeral.ofInt value
  | .name identifier => identifier
  | .text value => String.ofList (Literal.encode value.toList)
  | .arithmetic operator left right =>
      "(" ++ left.code ++ " " ++ operator.sign ++ " " ++ right.code ++ ")"
  | .call function arguments => function ++ "(" ++ ", ".intercalate (codes arguments) ++ ")"

/-- The texts of the expressions of a list. -/
def codes : List Expr → List String
  | [] => []
  | argument :: rest => argument.code :: codes rest

end

end Expr

/-- The line of a statement without its indentation. -/
def Stmt.line : Stmt → String
  | .assign name value => name ++ " = " ++ value.code
  | .returns none => "return"
  | .returns (some value) => "return " ++ value.code
  | .evaluate expression => expression.code
  | .pass => "pass"

/-! ## Lines -/

/-- The lines with which every script begins. -/
def firstLines : List String :=
  ["import builtins as _builtins",
    "import sys as _sys",
    "",
    "",
    "def printf(fmt, *args):",
    "    text = fmt % args",
    "    _sys.stdout.write(text)",
    "    return _builtins.len(text)",
    "",
    "",
    "def _c_div(lhs, rhs):",
    "    quotient = _builtins.abs(lhs) // _builtins.abs(rhs)",
    "    return quotient if (lhs < 0) == (rhs < 0) else -quotient"]

/-- A line inside a block. -/
def indented (line : String) : String := "    " ++ line

/-- The lines of a definition. -/
def Definition.lines (definition : Definition) : List String :=
  ["", "", "def " ++ definition.name ++ "():"] ++
    definition.body.map fun statement => indented statement.line

/-- The lines that start a script at a function. -/
def entryLines (name : String) : List String :=
  ["", "", "if __name__ == \"__main__\":", indented ("_sys.exit(" ++ name ++ "())")]

/-- All lines of a script. -/
def lines (script : Script) : List String :=
  firstLines ++ script.definitions.flatMap Definition.lines ++
    (script.entry.map entryLines).getD []

/-- The text of a script: its lines, each with a line feed. -/
def code (script : Script) : String := String.join (script.lines.map fun line => line ++ "\n")

end Script

end TinyC
