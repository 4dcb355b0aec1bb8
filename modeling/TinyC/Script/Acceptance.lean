import TinyC.Script
import TinyC.Unicode.Identifier
import TinyC.Unicode.NormalForm

/-!
# Which scripts are accepted

Before a script runs, its text is read.  Names must have the shape of names, one
of them cannot be given a value, and brackets may be nested only so deep.  Names
with the same normal form are the same name; a script is run with all names in
normal form.
-/

namespace TinyC.Script

/-! ## Brackets -/

/-- The largest number of brackets that may be open at once in a line. -/
def bracketLimit : Nat := 200

namespace Expr

mutual

/-- The largest number of brackets that are open at once in the text of an expression. -/
def brackets : Expr → Nat
  | .integer _ | .name _ | .text _ => 0
  | .arithmetic _ left right => max left.brackets right.brackets + 1
  | .call _ arguments => greatestBrackets arguments + 1

/-- The largest number of brackets that are open at once in one of the texts. -/
def greatestBrackets : List Expr → Nat
  | [] => 0
  | argument :: rest => max argument.brackets (greatestBrackets rest)

end

end Expr

/-! ## Names -/

namespace Expr

mutual

/-- The names in an expression, in the order in which they are met. -/
def names : Expr → List String
  | .integer _ | .text _ => []
  | .name identifier => [identifier]
  | .arithmetic _ left right => left.names ++ right.names
  | .call function arguments => function :: namesOfAll arguments

/-- The names in the expressions of a list. -/
def namesOfAll : List Expr → List String
  | [] => []
  | argument :: rest => argument.names ++ namesOfAll rest

end

end Expr

/-- The expression of a statement. -/
def Stmt.expression? : Stmt → Option Expr
  | .assign _ value => some value
  | .returns value => value
  | .evaluate expression => some expression
  | .pass => none

/-- The name that a statement gives a value. -/
def Stmt.assigned? : Stmt → Option String
  | .assign name _ => some name
  | _ => none

/-- The names that a body assigns. -/
def assigned (body : List Stmt) : List String := body.filterMap Stmt.assigned?

/-- The names in a body, in the order in which they are met. -/
def mentioned (body : List Stmt) : List String :=
  body.flatMap fun statement =>
    ((statement.expression?.map Expr.names).getD []) ++ statement.assigned?.toList

/-! ## Normal forms -/

/-- The normal form of a name. -/
def normalName (name : String) : String := Unicode.NormalForm.ofText name

namespace Expr

mutual

/-- An expression with all names in normal form. -/
def normal : Expr → Expr
  | .integer value => .integer value
  | .name identifier => .name (normalName identifier)
  | .text value => .text value
  | .arithmetic operator left right => .arithmetic operator left.normal right.normal
  | .call function arguments => .call (normalName function) (normals arguments)

/-- The expressions of a list with all names in normal form. -/
def normals : List Expr → List Expr
  | [] => []
  | argument :: rest => argument.normal :: normals rest

end

end Expr

/-- A statement with all names in normal form. -/
def Stmt.normal : Stmt → Stmt
  | .assign name value => .assign (normalName name) value.normal
  | .returns value => .returns (value.map Expr.normal)
  | .evaluate expression => .evaluate expression.normal
  | .pass => .pass

/-- A definition with all names in normal form. -/
def Definition.normal (definition : Definition) : Definition :=
  ⟨normalName definition.name, definition.body.map Stmt.normal⟩

/-- A script with all names in normal form. -/
def normal (script : Script) : Script :=
  ⟨script.definitions.map Definition.normal, script.entry.map normalName⟩

/-! ## Acceptance -/

/-- The name that cannot be assigned or defined although it is not reserved. -/
def constantName : String := "__debug__"

/-- Whether a text has the shape of a name. -/
def isName (text : String) : Bool :=
  match text.toList with
  | [] => false
  | first :: rest => (first = '_' || Unicode.isXidStart first) && rest.all Unicode.isXidContinue

/-- Whether a definition is accepted. -/
def Definition.isAccepted (definition : Definition) : Bool :=
  let bound := definition.name :: assigned definition.body
  let expressions := definition.body.filterMap Stmt.expression?
  (definition.name :: mentioned definition.body).all isName &&
    bound.all (fun name => normalName name ≠ constantName) &&
    expressions.all fun expression => expression.brackets ≤ bracketLimit

/-- Whether a script is accepted at all. -/
def isAccepted (script : Script) : Bool := script.definitions.all Definition.isAccepted

end TinyC.Script
