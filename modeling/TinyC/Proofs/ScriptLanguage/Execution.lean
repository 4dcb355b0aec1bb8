import TinyC.Proofs.ScriptLanguage.Module

/-!
# Executing modules

What a function of a module returns, as far as whole numbers, truth values and
functions go.  Integers are not bounded, and truth values count as zero and one.
Division rounds down.  A name that is assigned anywhere in a body is local to it;
other names are those of the module, where the last definition counts.

The results are optional: there is none where an error would be raised, where
more calls are nested than allowed, and where something is asked of a value that
is not described here.
-/

namespace TinyC.ScriptLanguage

/-! ## Values -/

/-- A value. -/
inductive Value
  | nothing
  | truth (value : Bool)
  | integer (value : Int)
  /-- A library that was imported. -/
  | library (name : String)
  /-- A function that every script has. -/
  | builtin (name : String)
  | function (parameters : List String) (others : Option String) (body : List Statement)
  deriving Repr

namespace Value

/-- The integer as which a value counts. -/
def count? : Value → Option Int
  | .integer value => some value
  | .truth value => some (if value then 1 else 0)
  | _ => none

/-- Whether a value counts as true in a condition. -/
def isTrue : Value → Bool
  | .nothing => false
  | .truth value => value
  | .integer value => value ≠ 0
  | _ => true

/-- What a value has under a name. -/
def member? : Value → String → Option Value
  | .library "builtins", "abs" => some (.builtin "abs")
  | _, _ => none

end Value

/-- Names with their values, the last one given first. -/
abbrev Bindings : Type := List (String × Value)

/-- The result of a sign before an integer. -/
def Sign.apply : Sign → Int → Int
  | .plus, value => value
  | .minus, value => -value

/-- The result of an operator between integers. -/
def Operator.result? : Operator → Int → Int → Option Int
  | .add, left, right => some (left + right)
  | .sub, left, right => some (left - right)
  | .mul, left, right => some (left * right)
  | .floorDiv, left, right => if right = 0 then none else some (left.fdiv right)
  | .mod, left, right => if right = 0 then none else some (left.fmod right)

/-- Whether a comparison of integers holds. -/
def Comparison.holds : Comparison → Int → Int → Bool
  | .less, left, right => left < right
  | .equal, left, right => left = right

/-! ## Expressions -/

/-- Where the value of a name is found, and what a call returns. -/
structure Scope where
  valueOf : String → Option Value
  call : Value → List Value → Option Value

namespace Tree

mutual

/-- The value of an expression. -/
def value? (scope : Scope) : Tree → Option Value
  | .integer value => some (.integer value)
  | .text _ | .tuple _ | .starred _ => none
  | .name identifier => scope.valueOf identifier
  | .member object identifier =>
      (object.value? scope).bind fun object => object.member? identifier
  | .call function arguments =>
      (function.value? scope).bind fun function =>
        (values? scope arguments).bind fun arguments => scope.call function arguments
  | .signed sign operand =>
      (operand.value? scope).bind fun operand =>
        operand.count?.map fun value => .integer (sign.apply value)
  | .binary operator left right =>
      (left.value? scope).bind fun left =>
        (right.value? scope).bind fun right =>
          left.count?.bind fun left =>
            right.count?.bind fun right => (operator.result? left right).map .integer
  | .compared first others =>
      (first.value? scope).bind fun first =>
        first.count?.bind fun first => (holds? scope first others).map .truth
  | .conditional value condition otherwise =>
      (condition.value? scope).bind fun condition =>
        if condition.isTrue then value.value? scope else otherwise.value? scope

/-- The values of the expressions of a list. -/
def values? (scope : Scope) : List Tree → Option (List Value)
  | [] => some []
  | first :: rest =>
      (first.value? scope).bind fun first => (values? scope rest).map (first :: ·)

/-- Whether comparisons hold, each with what stands before it.  The first that does not ends
them. -/
def holds? (scope : Scope) (left : Int) : List (Comparison × Tree) → Option Bool
  | [] => some true
  | (comparison, tree) :: rest =>
      (tree.value? scope).bind fun right =>
        right.count?.bind fun right =>
          if comparison.holds left right then holds? scope right rest else some false

end

end Tree

/-! ## Functions -/

/-- The name that a statement gives a value. -/
def Statement.assigned? : Statement → Option String
  | .assign name _ => some name
  | _ => none

/-- What a body returns when it is entered with values for some names. -/
def returned? (scope : Bindings → Scope) (locals : Bindings) :
    List Statement → Option Value
  | [] => some .nothing
  | .assign name value :: rest =>
      (value.value? (scope locals)).bind fun value => returned? scope ((name, value) :: locals) rest
  | .returns none :: _ => some .nothing
  | .returns (some value) :: _ => value.value? (scope locals)
  | .evaluate tree :: rest =>
      (tree.value? (scope locals)).bind fun _ => returned? scope locals rest
  | .pass :: rest => returned? scope locals rest
  | .importAs _ _ :: _ | .define _ _ _ _ :: _ => none

/-- The value of a name in a body with the given local names. -/
def resolve (globals : Bindings) (localNames : List String)
    (locals : Bindings) (name : String) : Option Value :=
  if name ∈ localNames then locals.lookup name else globals.lookup name

/-- What a call of a value returns, when the given number of calls of functions may be nested. -/
def call (globals : Bindings) : Nat → Value → List Value → Option Value
  | _, .builtin "abs", [value] => value.count?.map fun value => .integer value.natAbs
  | remaining + 1, .function parameters none body, arguments =>
      if parameters.length = arguments.length then
        let localNames := parameters ++ body.filterMap Statement.assigned?
        let scope (locals : Bindings) : Scope :=
          ⟨resolve globals localNames locals, call globals remaining⟩
        returned? scope (parameters.zip arguments) body
      else none
  | _, _, _ => none

/-- What is known in a body with the given local names when some of them have values. -/
def bodyScope (globals : Bindings) (nesting : Nat) (localNames : List String)
    (locals : Bindings) : Scope :=
  ⟨resolve globals localNames locals, call globals nesting⟩

theorem call_function (globals : Bindings) (nesting : Nat) {parameters : List String}
    (body : List Statement) {arguments : List Value}
    (hlength : parameters.length = arguments.length) :
    call globals (nesting + 1) (.function parameters none body) arguments =
      returned?
        (bodyScope globals nesting (parameters ++ body.filterMap Statement.assigned?))
        (parameters.zip arguments) body := by
  rw [call, if_pos hlength]
  rfl

/-! ## Modules -/

/-- The names to which a module gives values, the last one first, after those that have some. -/
def globals? (known : Bindings) : List Statement → Option Bindings
  | [] => some known
  | .importAs library name :: rest => globals? ((name, .library library) :: known) rest
  | .define name parameters others body :: rest =>
      globals? ((name, .function parameters others body) :: known) rest
  | _ => none

/-- What a call of a function of a module without arguments returns, when the given number of calls
of functions may be nested. -/
def result? (statements : List Statement) (nesting : Nat) (name : String) : Option Value :=
  (globals? [] statements).bind fun globals =>
    (globals.lookup name).bind fun function => call globals nesting function []

end TinyC.ScriptLanguage
