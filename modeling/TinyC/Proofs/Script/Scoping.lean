import TinyC.Proofs.Script.Expressions
import TinyC.Script.Evaluation

/-!
# What calls refer to

In a program, a declaration counts from its own statement on.  In a script, a
name that a body assigns anywhere is local to the whole body.  A call before any
declaration of its function therefore refers to the module exactly if no later
statement of the body binds the function's name, and no statement binds another
identifier that is spelled like it in the script.  In the module, the last
function with that spelling is found.
-/

namespace TinyC

/-! ## Names that are bound and functions that are called -/

/-- The name that a statement declares or assigns. -/
def Stmt.bound? : Stmt → Option String
  | .declare name _ | .assign name _ => some name
  | .returns _ | .evaluate _ => none

/-- The names that a function declares or assigns. -/
def Function.bound (function : Function) : List String := function.body.filterMap Stmt.bound?

namespace Expr

mutual

/-- The functions that are called in an expression, in the order in which they are met. -/
def calls : Expr → List String
  | .number _ | .name _ | .string _ => []
  | .binary _ left right => left.calls ++ right.calls
  | .call function arguments => function :: callsOfAll arguments

/-- The functions that are called in the expressions of a list. -/
def callsOfAll : List Expr → List String
  | [] => []
  | argument :: rest => argument.calls ++ callsOfAll rest

end

/-- The function that an expression calls itself. -/
def callee? : Expr → Option String
  | .call function _ => some function
  | .number _ | .name _ | .string _ | .binary _ _ _ => none

theorem isCollected_calls :
    IsCollected operands (fun expression => expression.callee?.toList) calls callsOfAll where
  node expression := by cases expression <;> simp [calls, callsOfAll, operands, callee?]
  nil := rfl
  cons _ _ := rfl

end Expr

/-- The functions that are called in a statement. -/
def Stmt.calls : Stmt → List String
  | .declare _ init => init.toList.flatMap Expr.calls
  | .assign _ value => value.calls
  | .returns value => value.toList.flatMap Expr.calls
  | .evaluate expression => expression.calls

namespace Script

namespace Expr

mutual

/-- The functions that are called in an expression, in the order in which they are met. -/
def calls : Expr → List String
  | .integer _ | .name _ | .text _ => []
  | .arithmetic _ left right => left.calls ++ right.calls
  | .call function arguments => function :: callsOfAll arguments

/-- The functions that are called in the expressions of a list. -/
def callsOfAll : List Expr → List String
  | [] => []
  | argument :: rest => argument.calls ++ callsOfAll rest

end

/-- The function that an expression calls itself. -/
def callee? : Expr → Option String
  | .call function _ => some function
  | .integer _ | .name _ | .text _ | .arithmetic _ _ _ => none

theorem isCollected_calls :
    IsCollected operands (fun expression => expression.callee?.toList) calls callsOfAll where
  node expression := by cases expression <;> simp [calls, callsOfAll, operands, callee?]
  nil := rfl
  cons _ _ := rfl

end Expr

/-- The functions that are called in a statement. -/
def Stmt.calls (statement : Stmt) : List String :=
  (statement.expression?.map Expr.calls).getD []

/-! ## Calls stay calls -/

theorem own_calls_ofExpr (expression : TinyC.Expr) :
    own (Expr.ofExpr expression).calls = expression.calls.map nameOf := by
  refine (Expr.isCollected_calls.ofExpr.image own rfl own_append).eq
    (TinyC.Expr.isCollected_calls.image (List.map nameOf) rfl fun _ _ => List.map_append)
    (fun expression => ?_) expression
  cases expression with
  | number value => rfl
  | name identifier => rfl
  | string value => rfl
  | binary operator left right =>
      -- The division is a call itself, but none of the program's.
      cases operator <;> rfl
  | call function arguments => exact own_cons_nameOf function []

/-- The calls of a statement are calls in the script, of the functions renamed. -/
theorem own_calls_ofStmt (statement : TinyC.Stmt) :
    own (Stmt.ofStmt statement).calls = statement.calls.map nameOf := by
  cases statement with
  | declare name init =>
      cases init with
      | none => rfl
      | some init =>
          simpa [Stmt.calls, Stmt.ofStmt, Stmt.expression?, TinyC.Stmt.calls]
            using own_calls_ofExpr init
  | assign name value => exact own_calls_ofExpr value
  | returns value =>
      cases value with
      | none => rfl
      | some value =>
          simpa [Stmt.calls, Stmt.ofStmt, Stmt.expression?, TinyC.Stmt.calls]
            using own_calls_ofExpr value
  | evaluate expression => exact own_calls_ofExpr expression

/-! ## Names of a body and names of the module -/

/-- In the body of the definition, whatever has been assigned so far, the name is that of the
module. -/
def RefersToModule (script : Script) (definition : Definition) (name : String) : Prop :=
  ∀ locals, script.localValue (assigned definition.body) locals name = script.globalValue name

theorem globalValue_ne_unboundLocalError (script : Script) (name : String) :
    script.globalValue name ≠ .error (.unboundLocalError name) := by
  rw [globalValue]
  repeat' split
  all_goals simp

/-- A name is that of the module exactly if no statement of the body assigns it. -/
theorem refersToModule_iff {script : Script} {definition : Definition} {name : String} :
    RefersToModule script definition name ↔ name ∉ assigned definition.body := by
  constructor
  · intro hrefers hassigned
    have hlocal := hrefers []
    rw [localValue, if_pos (List.contains_iff_mem.2 hassigned), List.lookup_nil] at hlocal
    exact globalValue_ne_unboundLocalError script name hlocal.symm
  · intro hassigned locals
    rw [localValue, if_neg (by simpa using hassigned)]

/-- The definition of a function assigns what the function binds. -/
theorem assigned_ofFunction (function : Function) :
    assigned (Definition.ofFunction function).normal.body = function.bound.map spelling := by
  obtain ⟨name, body⟩ := function
  have hassigned : (fun statement => (Stmt.ofStmt statement).normal.assigned?) =
      fun statement : TinyC.Stmt => statement.bound?.map spelling := by
    funext statement
    cases statement <;> rfl
  show assigned ((bodyOf body).map Stmt.normal) = (body.filterMap TinyC.Stmt.bound?).map spelling
  cases body with
  | nil => rfl
  | cons statement rest =>
      rw [bodyOf, if_neg (by simp), assigned, List.filterMap_map, List.filterMap_map,
        List.map_filterMap]
      exact congrArg (List.filterMap · (statement :: rest)) hassigned

/-- The module has under a name the last function that is spelled so. -/
theorem definition?_ofProgram (program : Program) (name : String) :
    (ofProgram program).normal.definition? name =
      (program.functions.reverse.find? fun function => spelling function.name = name).map
        fun function => (Definition.ofFunction function).normal := by
  rw [definition?, normal, ofProgram, List.map_map, ← List.map_reverse, List.find?_map]
  rfl

/-! ## Calls before declarations -/

/-- Two different names in normal form are spelled alike only if one of them displaces the other. -/
theorem spelling_eq_iff {first second : String} (hne : first ≠ second)
    (hfirst : normalName first = first) (hsecond : normalName second = second) :
    spelling first = spelling second ↔ Displaces first second ∨ Displaces second first := by
  rw [spelling_of_normal hfirst, spelling_of_normal hsecond, nameOf_eq_iff hne]

/-- A body keeps a spelling free exactly if no later statement binds the identifier and no
statement binds another one that is spelled like it. -/
theorem spelling_not_mem_iff {function : Function} {before after : List TinyC.Stmt}
    {statement : TinyC.Stmt} {callee : String}
    (hbody : function.body = before ++ statement :: after)
    (hfree : ∀ earlier ∈ before ++ [statement], earlier.bound? ≠ some callee) :
    spelling callee ∉ function.bound.map spelling ↔
      (∀ later ∈ after, later.bound? ≠ some callee) ∧
        ∀ other ∈ function.bound, other ≠ callee → spelling other ≠ spelling callee := by
  have hbound : callee ∈ function.bound ↔ ∃ later ∈ after, later.bound? = some callee := by
    rw [Function.bound, hbody, List.append_cons, List.filterMap_append, List.mem_append,
      List.mem_filterMap, List.mem_filterMap]
    refine or_iff_right ?_
    rintro ⟨earlier, hearlier, hcallee⟩
    exact hfree earlier hearlier hcallee
  constructor
  · intro hspelling
    have hnone : ∀ other ∈ function.bound, spelling other ≠ spelling callee :=
      fun other hother hsame => hspelling (hsame ▸ List.mem_map_of_mem hother)
    exact ⟨fun later hlater hcallee => hnone callee (hbound.2 ⟨later, hlater, hcallee⟩) rfl,
      fun other hother _ => hnone other hother⟩
  · rintro ⟨hlater, hothers⟩ hspelling
    obtain ⟨other, hother, hsame⟩ := List.mem_map.1 hspelling
    by_cases hne : other = callee
    · subst hne
      obtain ⟨later, hmem, hcallee⟩ := hbound.1 hother
      exact hlater later hmem hcallee
    · exact hothers other hother hne hsame

/-- A function that is called where neither the statement nor one before it binds its name is
called by its name in the script.  The name is that of the module exactly if no later statement
binds it and no statement binds another identifier that is spelled like it, which of names in
normal form are only those that displace one another.  In the module it is the last function that
is spelled so. -/
theorem refersToModule_of_call (program : Program) {function : Function}
    {before after : List TinyC.Stmt} {statement : TinyC.Stmt} {callee : String}
    (hbody : function.body = before ++ statement :: after) (hcall : callee ∈ statement.calls)
    (hfree : ∀ earlier ∈ before ++ [statement], earlier.bound? ≠ some callee) :
    nameOf callee ∈ (Stmt.ofStmt statement).calls ∧
      (RefersToModule (ofProgram program).normal (Definition.ofFunction function).normal
          (spelling callee) ↔
        (∀ later ∈ after, later.bound? ≠ some callee) ∧
          ∀ other ∈ function.bound, other ≠ callee → spelling other ≠ spelling callee) ∧
      (∀ other ∈ function.bound, other ≠ callee → normalName other = other →
        normalName callee = callee →
          (spelling other = spelling callee ↔ Displaces other callee ∨ Displaces callee other)) ∧
      (ofProgram program).normal.definition? (spelling callee) =
        (program.functions.reverse.find? fun target => spelling target.name = spelling callee).map
          fun target => (Definition.ofFunction target).normal := by
  refine ⟨?_, ?_, fun other _ => spelling_eq_iff, definition?_ofProgram program _⟩
  · have hname : nameOf callee ∈ own (Stmt.ofStmt statement).calls := by
      rw [own_calls_ofStmt]
      exact List.mem_map_of_mem hcall
    exact (List.mem_filter.1 hname).1
  · rw [refersToModule_iff, assigned_ofFunction, spelling_not_mem_iff hbody hfree]

/-- A function that binds a variable and calls another function before and after. -/
def caller : Function :=
  ⟨"main", [.declare "if" (some (.call "f" [])), .returns (some (.call "f" [.name "if"]))]⟩

/-- A program with two functions of the name that is called. -/
def callerProgram : Program :=
  ⟨[⟨"f", [.returns (some (.number 1))]⟩, ⟨"f", [.returns (some (.number 2))]⟩, caller]⟩

theorem refersToModule_of_call_caller :
    RefersToModule (ofProgram callerProgram).normal (Definition.ofFunction caller).normal
        (spelling "f") ∧
      (ofProgram callerProgram).normal.definition? (spelling "f") =
        some (Definition.ofFunction ⟨"f", [.returns (some (.number 2))]⟩).normal := by
  have hbody : caller.body = [] ++ .declare "if" (some (.call "f" [])) ::
      [.returns (some (.call "f" [.name "if"]))] := rfl
  have hcall : "f" ∈ (TinyC.Stmt.declare "if" (some (.call "f" []))).calls := by decide
  obtain ⟨-, hrefers, -, htarget⟩ :=
    refersToModule_of_call callerProgram hbody hcall (by decide)
  have hlast : callerProgram.functions.reverse.find? (fun target =>
      spelling target.name = spelling "f") = some ⟨"f", [.returns (some (.number 2))]⟩ := by
    decide +kernel
  exact ⟨hrefers.2 (by decide +kernel), htarget.trans (by rw [hlast]; rfl)⟩

/-- A text in which a variable is declared after a call of the function of that name. -/
def hidden : String :=
  "int f() \x7b return 1; \x7d int main() \x7b int y = f(); int f = 2; return y; \x7d"

/-- The program in that text. -/
def hiddenProgram : Program :=
  ⟨[⟨"f", [.returns (some (.number 1))]⟩,
    ⟨"main", [.declare "y" (some (.call "f" [])), .declare "f" (some (.number 2)),
      .returns (some (.name "y"))]⟩]⟩

/-- A text in which a variable is spelled in the script like a function that is called. -/
def displaced : String :=
  "int if() \x7b return 5; \x7d int main() \x7b int if_ = bool; return if(); \x7d"

/-- The program in that text. -/
def displacedProgram : Program :=
  ⟨[⟨"if", [.returns (some (.number 5))]⟩,
    ⟨"main", [.declare "if_" (some (.name "bool")), .returns (some (.call "if" []))]⟩]⟩

/-- A call may stand before any declaration of its function and still not refer to the module: in
one program because of a later declaration, which is an error when the script runs; in the other
because of another identifier, whose value is called instead. -/
theorem not_refersToModule_hidden_displaced :
    (Program.ofText hidden = .ok hiddenProgram ∧
      ∃ function ∈ hiddenProgram.functions, ∃ statement after,
        function.body = statement :: after ∧ "f" ∈ statement.calls ∧
        statement.bound? ≠ some "f" ∧
        spelling "f" ∈ assigned (Definition.ofFunction function).normal.body ∧
        ¬ RefersToModule (ofProgram hiddenProgram).normal (Definition.ofFunction function).normal
          (spelling "f") ∧
        (ofProgram hiddenProgram).execute = ⟨1, "", "UnboundLocalError\n"⟩) ∧
    (Program.ofText displaced = .ok displacedProgram ∧
      ∃ function ∈ displacedProgram.functions, ∃ first statement,
        function.body = [first, statement] ∧ "if" ∈ statement.calls ∧
        (∀ earlier ∈ [first, statement], earlier.bound? ≠ some "if") ∧
        spelling "if" ∈ assigned (Definition.ofFunction function).normal.body ∧
        ¬ RefersToModule (ofProgram displacedProgram).normal
          (Definition.ofFunction function).normal (spelling "if") ∧
        (ofProgram displacedProgram).execute = ⟨0, "", ""⟩) := by
  have hhidden : spelling "f" ∈ assigned (Definition.ofFunction
      ⟨"main", [.declare "y" (some (.call "f" [])), .declare "f" (some (.number 2)),
        .returns (some (.name "y"))]⟩).normal.body := by decide +kernel
  have hdisplaced : spelling "if" ∈ assigned (Definition.ofFunction
      ⟨"main", [.declare "if_" (some (.name "bool")),
        .returns (some (.call "if" []))]⟩).normal.body := by decide +kernel
  refine ⟨⟨ofText_eq_ok_of_toOption (by decide +kernel), _, by decide, _, _, rfl, by decide,
    by decide, hhidden, fun hrefers => refersToModule_iff.1 hrefers hhidden, by decide +kernel⟩,
    ⟨ofText_eq_ok_of_toOption (by decide +kernel), _, by decide, _, _, rfl, by decide,
      by decide, hdisplaced, fun hrefers => refersToModule_iff.1 hrefers hdisplaced,
      by decide +kernel⟩⟩

end Script

end TinyC
