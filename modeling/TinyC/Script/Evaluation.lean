import TinyC.Script.Acceptance
import TinyC.Script.Builtin

/-!
# Running scripts

What a script prints and how it ends.  Names assigned anywhere in a body are
local to it; other names are those of definitions, of which the last counts, of
what the first lines define, or of what every script has.  Calls of definitions
may be nested `callLimit` deep.

## Strategy

`Expr.value` and `run` recurse on the script's text and take calls as a
parameter; `enter` provides it and recurses on the calls that may still be
nested.  Functions that are not defined call others in their turn; `invoke`
recurses on how deep these are nested.
-/

namespace TinyC.Script

/-! ## Expressions -/

/-- Where the value of a name is found, and what a call does. -/
structure Context where
  valueOf : String → Except Stop Value
  call : Call

namespace Expr

mutual

/-- The value of an expression.  Parts are evaluated from left to right. -/
def value (context : Context) : Expr → Machine Value
  | .integer value => return .integer value
  | .name identifier => Machine.ofExcept (context.valueOf identifier)
  | .text value => return .ofString value
  | .arithmetic operator left right => do
      let left ← left.value context
      let right ← right.value context
      Machine.ofExcept (operator.apply left right)
  | .call function arguments => do
      let function ← Machine.ofExcept (context.valueOf function)
      let arguments ← values context arguments
      context.call function arguments

/-- The values of the expressions of a list. -/
def values (context : Context) : List Expr → Machine (List Value)
  | [] => return []
  | argument :: rest => do
      let first ← argument.value context
      let others ← values context rest
      return first :: others

end

end Expr

/-! ## Names -/

/-- The module of what every script has. -/
def builtinsModule : Value := .library "builtins"

/-- The module with which the first lines print, and end the script. -/
def sysModule : Value := .library "sys"

/-- The names that are known before the first definition, with their values. -/
def firstNames : List (String × Value) :=
  [("__name__", .ofString "__main__"), ("__doc__", .nothing), ("__package__", .nothing),
    ("__loader__", .object "_frozen_importlib_external.SourceFileLoader"),
    ("__spec__", .nothing), ("__annotations__", .dictionary []), ("__builtins__", builtinsModule),
    ("__file__", .ofString "main.py"), ("__cached__", .nothing), ("_builtins", builtinsModule),
    ("_sys", sysModule), ("printf", .provided .printf), (divisionName, .provided .divide)]

/-- The names of values that every script has, functions and kinds apart. -/
def constants : List (String × Value) :=
  [("True", .truth true), ("False", .truth false), ("None", .nothing),
    ("Ellipsis", .marker "Ellipsis"), ("NotImplemented", .marker "NotImplemented"),
    ("exit", .quitter "exit"), ("quit", .quitter "quit"),
    ("help", .notice "_sitebuiltins._Helper"
      "Type help() for interactive help, or help(object) for help about object."),
    ("license", .notice "_sitebuiltins._Printer" "Type license() to see the full license text")]

/-- The value of a name that every script has. -/
def commonValue? (name : String) : Option Value :=
  match constants.lookup name with
  | some value => some value
  | none =>
      if Builtin.isName name then some (.builtin name)
      else (Kind.ofName? name).map Value.kind

/-- The definition with a name.  The last one counts. -/
def definition? (script : Script) (name : String) : Option Definition :=
  script.definitions.reverse.find? fun definition => definition.name = name

/-- The names that a script gives values, with these values. -/
def globals (script : Script) : List (String × Value) :=
  let defined := script.definitions.map Definition.name
  let later := (defined.filter fun name => (firstNames.lookup name).isNone).eraseDups
  let valueOf (name : String) (otherwise : Value) : Value :=
    ((script.definition? name).map Value.function).getD otherwise
  firstNames.map (fun (name, value) => (name, valueOf name value)) ++
    later.map fun name => (name, valueOf name .nothing)

/-- The value of a name outside the bodies of definitions. -/
def globalValue (script : Script) (name : String) : Except Stop Value :=
  if name = constantName then .ok (.truth true)
  else
    match script.definition? name with
    | some definition => .ok (.function definition)
    | none =>
        match firstNames.lookup name with
        | some value => .ok value
        | none =>
            match commonValue? name with
            | some value => .ok value
            | none => .error (.nameError name)

/-- The value of a name in a body that assigns the given names. -/
def localValue (script : Script) (assigned : List String) (locals : List (String × Value))
    (name : String) : Except Stop Value :=
  if assigned.contains name then
    match locals.lookup name with
    | some value => .ok value
    | none => .error (.unboundLocalError name)
  else script.globalValue name

/-- Whether a name still stands for what the first lines gave it. -/
def isIntact (script : Script) (name : String) : Bool := (script.definition? name).isNone

/-! ## Functions without definitions -/

/-- What the functions do that the first lines define. -/
def provide (script : Script) (function : Provided) (arguments : List Value) : Machine Value :=
  match function, arguments with
  | .printf, .text format :: values => do
      let format ← Machine.ofExcept (Format.characters format)
      let text ← Machine.ofExcept (Format.apply format values)
      if !script.isIntact "_sys" then throw .attributeError
      Machine.print (String.ofList text)
      if !script.isIntact "_builtins" then throw .attributeError
      return .integer text.length
  | .divide, [left, right] => do
      if !script.isIntact "_builtins" then throw .attributeError
      Machine.ofExcept (left.quotient right)
  | _, _ => throw .typeError

/-- The largest number of calls of functions without definitions that may be nested. -/
def builtinLimit : Nat := 1000

/-- What is known where a function is called: what a call of a definition does, and whether one
may be nested further, and the names with their values. -/
structure Frame where
  enter : Definition → Machine Value
  isDeepest : Bool
  locals : Unit → List (String × Value)

/-- Calls a value, when the given number of calls of functions without definitions may still be
nested. -/
def invoke (script : Script) (frame : Frame) : (remaining : Nat) → Call
  | 0, _, _ => throw .recursionError
  | remaining + 1, function, arguments =>
      match function, arguments with
      | .function definition, [] => frame.enter definition
      | .provided function, arguments =>
          if frame.isDeepest then throw .recursionError else script.provide function arguments
      | .builtin name, arguments =>
          let scope : Scope :=
            ⟨script.invoke frame remaining, frame.locals, fun _ => script.globals⟩
          Builtin.apply name scope arguments
      | .kind name, arguments => Making.make (script.invoke frame remaining) name arguments
      | .quitter _, arguments =>
          match frame.isDeepest, arguments with
          | true, _ => throw .recursionError
          | _, [] => throw (.exit .nothing)
          | _, [value] => throw (.exit value)
          | _, _ => throw .typeError
      | _, _ => throw .typeError

/-! ## Bodies -/

/-- The names of a body that have values, in the order in which they are met, with their values. -/
def localsOf (body : List Stmt) (locals : List (String × Value)) : List (String × Value) :=
  (mentioned body).eraseDups.filterMap fun name =>
    (locals.lookup name).map fun value => (name, value)

/-- Runs statements up to the first that returns, and gives the value returned. -/
def run (script : Script) (call : List (String × Value) → Call) (assigned : List String)
    (locals : List (String × Value)) : List Stmt → Machine Value
  | [] => return .nothing
  | statement :: rest => do
      let context : Context := ⟨script.localValue assigned locals, call locals⟩
      match statement with
      | .assign name expression =>
          let value ← expression.value context
          script.run call assigned ((name, value) :: locals) rest
      | .returns none => return .nothing
      | .returns (some expression) => expression.value context
      | .evaluate expression =>
          let _ ← expression.value context
          script.run call assigned locals rest
      | .pass => script.run call assigned locals rest

/-- The largest number of calls of definitions that may be nested. -/
def callLimit : Nat := 999

/-- Runs the body of a definition, when the given number of calls may still be nested. -/
def enter (script : Script) : (remaining : Nat) → Definition → Machine Value
  | 0, _ => throw .recursionError
  | remaining + 1, definition =>
      let call (locals : List (String × Value)) : Call :=
        let frame : Frame :=
          ⟨script.enter remaining, remaining = 0, fun _ => localsOf definition.body locals⟩
        script.invoke frame builtinLimit
      script.run call (assigned definition.body) [] definition.body

/-! ## Whole scripts -/

/-- How a run ended. -/
structure Completion where
  exitCode : Nat
  output : String
  errors : String
  deriving DecidableEq, Repr

/-- The characters of a text that is an error message.  What is no character is numbered. -/
def messageOf (content : Rope) : String :=
  String.ofList (content.points.flatMap fun point =>
    if Rope.isSurrogate point then Value.numbered point else [Char.ofNat point])

/-- The exit code and the error text for a value with which a script ends. -/
def ending (value : Value) : Nat × String :=
  match value with
  | .nothing => (0, "")
  | value =>
      match value.index? with
      | some code =>
          if Int64.minValue.toInt ≤ code ∧ code ≤ Int64.maxValue.toInt then
            ((code % 256).toNat, "")
          else (255, "")
      | none =>
          match value.display with
          | .ok shown => (1, messageOf shown ++ "\n")
          | .error _ => (1, "\n")

/-- The value that tells how a script went, from what its first function gave.  An error that asks
to end the script has it as its argument, and a tuple stands for the arguments of one. -/
def verdict : Value → Value
  | .error "SystemExit" arguments | .tuple arguments =>
      match arguments with
      | [] => .nothing
      | [value] => value
      | values => .tuple values
  | value => value

/-- The value that tells how a script went that starts at a function. -/
def start (script : Script) (name : String) : Machine Value := do
  if !script.isIntact "_sys" then throw .attributeError
  let function ← Machine.ofExcept (script.globalValue name)
  let frame : Frame := ⟨script.enter callLimit, false, fun _ => []⟩
  return verdict (← script.invoke frame builtinLimit function [])

/-- Runs a script whose names are in normal form. -/
def executeNormal (script : Script) : Completion :=
  match script.entry with
  | none => ⟨0, "", ""⟩
  | some name =>
      if !script.isIntact "__name__" then ⟨0, "", ""⟩
      else
        match ((script.start name).run.run {} : Id (Except Stop Value × State)) with
        -- Leaving early and returning from the first function end a script alike.
        | (.ok value, state) | (.error (.exit value), state) =>
            let (exitCode, errors) := ending value
            ⟨exitCode, state.output, errors⟩
        | (.error stop, state) => ⟨1, state.output, stop.name ++ "\n"⟩

/-- Runs a script. -/
def execute (script : Script) : Completion :=
  if script.isAccepted then script.normal.executeNormal else ⟨1, "", "SyntaxError\n"⟩

end TinyC.Script
