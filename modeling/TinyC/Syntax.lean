/-!
# Programs

The syntax trees of the language.  A program is a list of functions without
parameters, a function a list of statements.  Numbers are 64 bits wide and
signed; strings hold the decoded text of their literals.
-/

namespace TinyC

/-! ## Operators and expressions -/

/-- The arithmetic operators. -/
inductive Operator
  | add
  | sub
  | mul
  | div
  deriving DecidableEq, Repr

namespace Operator

/-- The sign with which an operator is written. -/
def sign : Operator → String
  | .add => "+"
  | .sub => "-"
  | .mul => "*"
  | .div => "/"

/-- Every operator once. -/
def all : List Operator := [.add, .sub, .mul, .div]

/-- The operator written with the given sign. -/
def ofSign? (sign : String) : Option Operator := all.find? fun operator => operator.sign = sign

theorem sign_injective {first second : Operator} (hsign : first.sign = second.sign) :
    first = second := by
  cases first <;> cases second <;> first | rfl | exact absurd hsign (by decide)

end Operator

/-- An expression. -/
inductive Expr
  | number (value : Int64)
  | name (identifier : String)
  | string (value : String)
  | binary (operator : Operator) (left right : Expr)
  | call (function : String) (arguments : List Expr)
  deriving Repr

namespace Expr

mutual

/-- The height of an expression: one for a leaf or a call without arguments. -/
def height : Expr → Nat
  | .number _ | .name _ | .string _ => 1
  | .binary _ left right => max left.height right.height + 1
  | .call _ arguments => greatestHeight arguments + 1

/-- The height of the highest expression in a list, or zero. -/
def greatestHeight : List Expr → Nat
  | [] => 0
  | argument :: rest => max argument.height (greatestHeight rest)

end

/-- No expression is flat. -/
theorem height_pos (expression : Expr) : 0 < expression.height := by
  cases expression <;> simp [height]

/-! ## Equality -/

mutual

/-- Whether two expressions are the same. -/
def same : Expr → Expr → Bool
  | .number first, .number second => first == second
  | .name first, .name second => first == second
  | .string first, .string second => first == second
  | .binary operator left right, .binary operator₂ left₂ right₂ =>
      operator == operator₂ && left.same left₂ && right.same right₂
  | .call function arguments, .call function₂ arguments₂ =>
      function == function₂ && sameAll arguments arguments₂
  | _, _ => false

/-- Whether two lists of expressions are the same. -/
def sameAll : List Expr → List Expr → Bool
  | [], [] => true
  | first :: rest, second :: others => first.same second && sameAll rest others
  | _, _ => false

end

mutual

theorem same_iff (first second : Expr) : first.same second = true ↔ first = second := by
  cases first with
  | number value => cases second <;> simp [same]
  | name identifier => cases second <;> simp [same]
  | string value => cases second <;> simp [same]
  | binary operator left right =>
      cases second <;>
        simp [same, same_iff left, same_iff right, and_assoc]
  | call function arguments => cases second <;> simp [same, sameAll_iff arguments]

theorem sameAll_iff (first second : List Expr) : sameAll first second = true ↔ first = second := by
  cases first with
  | nil => cases second <;> simp [sameAll]
  | cons expression rest =>
      cases second <;> simp [sameAll, same_iff expression, sameAll_iff rest]

end

instance : DecidableEq Expr := fun first second =>
  decidable_of_iff (first.same second = true) (same_iff first second)

end Expr

/-! ## Statements, functions, programs -/

/-- A statement. -/
inductive Stmt
  /-- A new variable, with its initial value if one is given. -/
  | declare (name : String) (init : Option Expr)
  | assign (name : String) (value : Expr)
  | returns (value : Option Expr)
  | evaluate (expression : Expr)
  deriving DecidableEq, Repr

/-- A function without parameters. -/
structure Function where
  name : String
  body : List Stmt
  deriving DecidableEq, Repr

/-- A whole program. -/
structure Program where
  functions : List Function
  deriving DecidableEq, Repr

namespace Program

/-- Whether a program has a function of the given name. -/
def defines (program : Program) (name : String) : Bool :=
  program.functions.any fun function => function.name = name

/-- Whether a program has a function at which it starts. -/
def hasMain (program : Program) : Bool := program.defines "main"

end Program

end TinyC
