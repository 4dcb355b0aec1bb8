import TinyC.Proofs.Script.Functions
import TinyC.Proofs.StraightLine

/-!
# Straight-line functions keep their meaning

What a straight-line function returns, the function in its script returns too,
when the text of the script is read and executed by the rules of the script's
language.

## Strategy

The script keeps every variable under the name that it was renamed to (`bound`),
and different variables have different names there, so expressions have the same
values (`value?_ofExpr`).  Each statement leads from corresponding variables to
corresponding variables, and the whole body is an induction on its statements.
-/

namespace TinyC

open ScriptLanguage

namespace Script

/-! ## Variables -/

/-- The variables of a script for those of a program. -/
def bound (spell : String → String) (store : List (String × Int)) : Bindings :=
  store.map fun entry => (spell entry.1, .integer entry.2)

theorem mem_of_lookup {store : List (String × Int)} {name : String} {value : Int}
    (hlookup : store.lookup name = some value) : (name, value) ∈ store := by
  obtain ⟨before, after, rfl, -⟩ := List.lookup_eq_some_iff.1 hlookup
  simp

section

variable {spell : String → String} {names : List String} {store : List (String × Int)}

theorem lookup_bound
    (hspell : ∀ first ∈ names, ∀ second ∈ names, spell first = spell second → first = second)
    (hstore : ∀ entry ∈ store, entry.1 ∈ names) {name : String} (hname : name ∈ names) :
    (bound spell store).lookup (spell name) = (store.lookup name).map .integer := by
  induction store with
  | nil => rfl
  | cons entry store ih =>
      obtain ⟨key, value⟩ := entry
      obtain ⟨hkey, hstore⟩ := List.forall_mem_cons.1 hstore
      by_cases heq : name = key
      · subst heq
        simp [bound]
      · have hne : (spell name == spell key) = false := by
          simpa using fun hsame => heq (hspell name hname key hkey hsame)
        have hkeys : (name == key) = false := by simpa using heq
        have hrest := ih hstore
        simp only [bound, List.map_cons, List.lookup_cons, hne, hkeys] at hrest ⊢
        exact hrest

end

/-! ## Expressions -/

/-- The function that divides is known, and rounds towards zero. -/
def Divides (scope : ScriptLanguage.Scope) : Prop :=
  ∃ function, scope.valueOf divisionName = some function ∧
    ∀ left right, right ≠ 0 →
      scope.call function [.integer left, .integer right] = some (.integer (left.tdiv right))

theorem value?_ofInt (scope : ScriptLanguage.Scope) (value : Int) :
    (Tree.ofInt value).value? scope = some (.integer value) := by
  cases value with
  | ofNat value => rfl
  | negSucc value => rfl

theorem value?_ofExpr {spell : String → String} {scope : ScriptLanguage.Scope}
    {store : List (String × Int)}
    (hdivides : Divides scope) (expression : TinyC.Expr)
    (hnames : ∀ name ∈ expression.names, ∀ value, store.lookup name = some value →
      scope.valueOf (spell name) = some (.integer value))
    {value : Int} (hresult : expression.result? store = some value) :
    (Tree.ofExpr spell expression).value? scope = some (.integer value) := by
  cases expression with
  | number number =>
      obtain rfl := Option.some.inj hresult
      exact value?_ofInt scope number.toInt
  | name identifier => exact hnames identifier (by simp [TinyC.Expr.names]) value hresult
  | string text => cases hresult
  | call function arguments => cases hresult
  | binary operator left right =>
      rw [TinyC.Expr.names, List.forall_mem_append] at hnames
      obtain ⟨first, hfirst, hresult⟩ := Option.bind_eq_some_iff.1 hresult
      obtain ⟨second, hsecond, hresult⟩ := Option.bind_eq_some_iff.1 hresult
      have hleft := value?_ofExpr hdivides left hnames.1 hfirst
      have hright := value?_ofExpr hdivides right hnames.2 hsecond
      cases operator with
      | add | sub | mul =>
          obtain rfl := Option.some.inj hresult
          simp [Tree.ofExpr, Tree.value?, hleft, hright, ScriptLanguage.Value.count?,
            ScriptLanguage.Operator.result?]
      | div =>
          obtain ⟨function, hfunction, hcall⟩ := hdivides
          rw [TinyC.Operator.result?] at hresult
          split at hresult
          · cases hresult
          · rename_i hne
            obtain rfl := Option.some.inj hresult
            simp [Tree.ofExpr, Tree.value?, Tree.values?, hfunction, hleft, hright,
              hcall first second hne]

/-! ## Statements -/

/-- The value that a script returns for what a program returns. -/
def returnValue : Option Int → ScriptLanguage.Value
  | none => .nothing
  | some value => .integer value

section

variable {spell : String → String} {names localNames : List String}
  {globals : Bindings} {nesting : Nat}

/-- The names of the statement are among the given ones, and what it assigns is local. -/
structure IsWithin (spell : String → String) (names localNames : List String)
    (statement : TinyC.Stmt) : Prop where
  names_subset : ∀ name ∈ statement.names, name ∈ names
  assigned_subset : ∀ name ∈ (statementOf spell statement).assigned?, name ∈ localNames

/-- The variables have names among the given ones, and are local. -/
def AreBound (spell : String → String) (names localNames : List String)
    (store : List (String × Int)) : Prop :=
  ∀ entry ∈ store, entry.1 ∈ names ∧ spell entry.1 ∈ localNames

theorem AreBound.cons {store : List (String × Int)} {name : String}
    (hbound : AreBound spell names localNames store) (hname : name ∈ names)
    (hlocal : spell name ∈ localNames) (value : Int) :
    AreBound spell names localNames ((name, value) :: store) :=
  List.forall_mem_cons.2 ⟨⟨hname, hlocal⟩, hbound⟩

variable (hspell : ∀ first ∈ names, ∀ second ∈ names, spell first = spell second → first = second)
  {store : List (String × Int)} (hbound : AreBound spell names localNames store)

include hspell hbound

/-- A variable of the program has its value in the script. -/
theorem valueOf_bound {name : String} {value : Int} (hlookup : store.lookup name = some value) :
    (bodyScope globals nesting localNames (bound spell store)).valueOf (spell name) =
      some (.integer value) := by
  obtain ⟨hname, hlocal⟩ := hbound _ (mem_of_lookup hlookup)
  show resolve globals localNames (bound spell store) (spell name) = some (.integer value)
  rw [resolve, if_pos hlocal,
    lookup_bound hspell (fun entry hentry => (hbound entry hentry).1) hname, hlookup]
  rfl

theorem value?_bound
    (hdivides : ∀ locals, Divides (bodyScope globals nesting localNames locals))
    {expression : TinyC.Expr} {value : Int} (hresult : expression.result? store = some value) :
    (Tree.ofExpr spell expression).value?
      (bodyScope globals nesting localNames (bound spell store)) = some (.integer value) :=
  value?_ofExpr (hdivides _) expression
    (fun _ _ _ hlookup => valueOf_bound hspell hbound hlookup) hresult

theorem returned?_map_statementOf
    (hdivides : ∀ locals, Divides (bodyScope globals nesting localNames locals))
    {body : List TinyC.Stmt} (hbody : ∀ statement ∈ body, IsWithin spell names localNames statement)
    {result : Option Int} (hresult : TinyC.Stmt.returned? store body = some result) :
    returned? (bodyScope globals nesting localNames) (bound spell store)
      (body.map (statementOf spell)) = some (returnValue result) := by
  induction body generalizing store with
  | nil =>
      obtain rfl := Option.some.inj hresult
      rfl
  | cons statement rest ih =>
      obtain ⟨hstatement, hrest⟩ := List.forall_mem_cons.1 hbody
      -- An assignment leads to corresponding variables again.
      have hassign {name : String} (hname : name ∈ names) (hlocal : spell name ∈ localNames)
          {value : Int}
          (hresult : TinyC.Stmt.returned? ((name, value) :: store) rest = some result) :=
        ih (hbound.cons hname hlocal value) hrest hresult
      cases statement with
      | declare name init =>
          have hname := hstatement.names_subset name List.mem_cons_self
          have hlocal := hstatement.assigned_subset (spell name) rfl
          cases init with
          | none => exact hassign hname hlocal hresult
          | some init =>
              obtain ⟨value, hvalue, hresult⟩ := Option.bind_eq_some_iff.1 hresult
              simp only [List.map_cons, statementOf, initialTree, returned?]
              rw [value?_bound hspell hbound hdivides hvalue]
              exact hassign hname hlocal hresult
      | assign name value =>
          have hname := hstatement.names_subset name List.mem_cons_self
          have hlocal := hstatement.assigned_subset (spell name) rfl
          obtain ⟨value, hvalue, hresult⟩ := Option.bind_eq_some_iff.1 hresult
          simp only [List.map_cons, statementOf, returned?]
          rw [value?_bound hspell hbound hdivides hvalue]
          exact hassign hname hlocal hresult
      | returns value =>
          cases value with
          | none =>
              obtain rfl := Option.some.inj hresult
              rfl
          | some expression =>
              obtain ⟨value, hvalue, rfl⟩ := Option.map_eq_some_iff.1 hresult
              exact value?_bound hspell hbound hdivides hvalue
      | evaluate expression =>
          obtain ⟨value, hvalue, hresult⟩ := Option.bind_eq_some_iff.1 hresult
          simp only [List.map_cons, statementOf, returned?]
          rw [value?_bound hspell hbound hdivides hvalue]
          exact ih hbound hrest hresult

end

/-! ## Functions -/

/-- The names that a body gives values, and that are local to it. -/
def localNamesOf (spell : String → String) (body : List TinyC.Stmt) : List String :=
  (statementsOf spell body).filterMap Statement.assigned?

theorem assigned_mem_localNamesOf {spell : String → String} {body : List TinyC.Stmt}
    {statement : TinyC.Stmt} (hstatement : statement ∈ body) :
    ∀ name ∈ (statementOf spell statement).assigned?, name ∈ localNamesOf spell body := by
  intro name hname
  refine List.mem_filterMap.2 ⟨statementOf spell statement, ?_, hname⟩
  rw [statementsOf, if_neg (by simpa using List.ne_nil_of_mem hstatement)]
  exact List.mem_map_of_mem hstatement

/-- What a statement gives a value has one of its names. -/
theorem exists_of_assigned {spell : String → String} {statement : TinyC.Stmt} {name : String}
    (hname : name ∈ (statementOf spell statement).assigned?) :
    ∃ identifier ∈ statement.names, name = spell identifier := by
  cases statement with
  | declare identifier _ | assign identifier _ =>
      obtain rfl := Option.some.inj hname
      exact ⟨identifier, List.mem_cons_self, rfl⟩
  | returns | evaluate => cases hname

theorem not_mem_localNamesOf {spell : String → String} {body : List TinyC.Stmt} {name : String}
    (hspell : ∀ identifier ∈ body.flatMap TinyC.Stmt.names, spell identifier ≠ name) :
    name ∉ localNamesOf spell body := by
  intro hmem
  obtain ⟨statement, hstatement, hassigned⟩ := List.mem_filterMap.1 hmem
  rw [statementsOf] at hstatement
  split at hstatement
  · obtain rfl := List.mem_singleton.1 hstatement
    cases hassigned
  · obtain ⟨source, hsource, rfl⟩ := List.mem_map.1 hstatement
    obtain ⟨identifier, hidentifier, rfl⟩ := exists_of_assigned hassigned
    exact hspell identifier (List.mem_flatMap.2 ⟨source, hsource, hidentifier⟩) rfl

/-- The names to which the module of a function gives values. -/
def globalsOf (spell : String → String) (function : Function) : Bindings :=
  [(spell function.name, .function [] none (statementsOf spell function.body)),
    (divisionName, .function ["lhs", "rhs"] none divisionBody),
    ("printf", .function ["fmt"] (some "args") printBody), ("_sys", .library "sys"),
    ("_builtins", .library "builtins")]

theorem globals?_firstStatements (spell : String → String) (function : Function) :
    globals? [] (firstStatements ++ [definitionOf spell function]) =
      some (globalsOf spell function) := rfl

theorem divides_bodyScope {spell : String → String} {function : Function} {nesting : Nat}
    {localNames : List String} (hlocal : divisionName ∉ localNames)
    (hdivision : spell function.name ≠ divisionName)
    (hlibrary : spell function.name ≠ "_builtins") (locals : Bindings) :
    Divides (bodyScope (globalsOf spell function) (nesting + 1) localNames locals) := by
  refine ⟨.function ["lhs", "rhs"] none divisionBody, ?_, fun left right hne => ?_⟩
  · show resolve _ localNames locals divisionName = _
    have hne : (divisionName == spell function.name) = false := by simpa using hdivision.symm
    rw [resolve, if_neg hlocal, globalsOf, List.lookup_cons, hne]
    rfl
  · refine call_divisionBody ?_ hne
    have hne : ("_builtins" == spell function.name) = false := by simpa using hlibrary.symm
    rw [globalsOf, List.lookup_cons, hne]
    rfl

/-- No plain name is read as one that is taken. -/
theorem IsPlain.spelling_ne {identifier taken : String} (hplain : IsPlain identifier)
    (htaken : isTaken taken = true) : spelling identifier ≠ taken := by
  rw [hplain.spelling_eq]
  rintro rfl
  rw [isTaken_nameOf] at htaken
  cases htaken

/-- The statements for a whole body return what the body returns. -/
theorem returned?_statementsOf {spell : String → String} {globals : Bindings}
    {nesting : Nat} {body : List TinyC.Stmt}
    (hspell : ∀ first ∈ body.flatMap TinyC.Stmt.names,
      ∀ second ∈ body.flatMap TinyC.Stmt.names, spell first = spell second → first = second)
    (hdivides : ∀ locals, Divides (bodyScope globals nesting (localNamesOf spell body) locals))
    {result : Option Int} (hresult : TinyC.Stmt.returned? [] body = some result) :
    returned? (bodyScope globals nesting (localNamesOf spell body)) [] (statementsOf spell body) =
      some (returnValue result) := by
  rw [statementsOf]
  split
  · rename_i hempty
    obtain rfl := List.isEmpty_iff.1 hempty
    obtain rfl := Option.some.inj hresult
    rfl
  · have hwithin : ∀ statement ∈ body,
        IsWithin spell (body.flatMap TinyC.Stmt.names) (localNamesOf spell body) statement :=
      fun statement hstatement =>
        ⟨fun name hname => List.mem_flatMap.2 ⟨statement, hstatement, hname⟩,
          assigned_mem_localNamesOf hstatement⟩
    have hbound : AreBound spell (body.flatMap TinyC.Stmt.names) (localNamesOf spell body) [] :=
      List.forall_mem_nil _
    exact returned?_map_statementOf hspell hbound hdivides hwithin hresult

/-- If a straight-line function with plain names, of which no two are renamed to the same, returns a
value or none, then the text of its script has one reading as a module, and the function in that
module returns the same. -/
theorem ofFunction_returns_same {function : Function}
    (hnames : ∀ name ∈ function.names, IsPlain name)
    (hrenaming : ∀ first ∈ function.body.flatMap TinyC.Stmt.names,
      ∀ second ∈ function.body.flatMap TinyC.Stmt.names, nameOf first = nameOf second →
        first = second)
    {result : Option Int} (hresult : function.returned? = some result) :
    ∃ module, IsModule (ofFunction function).code module ∧
      (∀ other, IsModule (ofFunction function).code other → other = module) ∧
      ∀ nesting, result? module (nesting + 2) (nameOf function.name) =
        some (returnValue result) := by
  have hmodule := isModule_ofFunction fun name hname => (hnames name hname).isReadable
  refine ⟨_, hmodule, fun other hother => hother.unique hmodule, fun nesting => ?_⟩
  rw [Function.names, List.forall_mem_cons] at hnames
  obtain ⟨hname, hbody⟩ := hnames
  have hspell : ∀ first ∈ function.body.flatMap TinyC.Stmt.names,
      ∀ second ∈ function.body.flatMap TinyC.Stmt.names, spelling first = spelling second →
        first = second := by
    intro first hfirst second hsecond hsame
    rw [(hbody first hfirst).spelling_eq, (hbody second hsecond).spelling_eq] at hsame
    exact hrenaming first hfirst second hsecond hsame
  have hfree : divisionName ∉ localNamesOf spelling function.body :=
    not_mem_localNamesOf fun identifier hidentifier =>
      (hbody identifier hidentifier).spelling_ne (by decide)
  have hdivides : ∀ locals, Divides (bodyScope (globalsOf spelling function) (nesting + 1)
      (localNamesOf spelling function.body) locals) :=
    divides_bodyScope hfree (hname.spelling_ne (by decide)) (hname.spelling_ne (by decide))
  have hfunction : (globalsOf spelling function).lookup (nameOf function.name) =
      some (.function [] none (statementsOf spelling function.body)) := by
    rw [globalsOf, hname.spelling_eq, List.lookup_cons_self]
  rw [result?, globals?_firstStatements, Option.bind_some, hfunction, Option.bind_some,
    call_function _ _ _ rfl]
  exact returned?_statementsOf hspell hdivides hresult

/-- A function with a variable named like a reserved word, one without a first value, a negative
number that is divided, and a statement after the first that returns. -/
def rounding : Function :=
  ⟨"main", [.declare "if" (some (.binary .sub (.number 0) (.number 7))), .declare "x" none,
    .assign "x" (.binary .div (.name "if") (.number 2)), .evaluate (.name "x"),
    .returns (some (.binary .mul (.name "x") (.number 3))), .assign "y" (.number 1)]⟩

theorem ofFunction_returns_same_rounding :
    rounding.returned? = some (some (-9)) ∧
      ∃ module, IsModule (ofFunction rounding).code module ∧
        result? module 2 "main" = some (.integer (-9)) := by
  have hresult : rounding.returned? = some (some (-9)) := by decide +kernel
  obtain ⟨module, hmodule, -, hreturns⟩ :=
    ofFunction_returns_same (by decide) (by decide) hresult
  exact ⟨hresult, module, hmodule, hreturns 0⟩

end Script

end TinyC
