import TinyC.Proofs.Script.Brackets
import TinyC.Proofs.Script.Functions
import TinyC.Proofs.Script.Origins
import TinyC.Proofs.Script.Scoping

/-!
# Which programs have scripts that are accepted

The names in a script have the shape of identifiers, and none of them is a
reserved word.  This is not all that the script's language asks for: it takes
fewer characters into names than programs do, and one name may not be given a
value.  Renaming changes neither, so whether a script is accepted is seen from
the identifiers of its program and from the depth of its expressions.
-/

namespace TinyC

open ScriptLanguage Lexical

namespace Script

/-! ## Single names -/

/-- What an identifier is renamed to has the shape of one. -/
theorem isName_nameOf_of_isName {identifier : String} (hname : IsName identifier) :
    IsName (nameOf identifier) := by
  cases htaken : isTaken identifier with
  | true =>
      have hall : ∀ taken ∈ keywords ++ reliedOn, IsName (taken ++ "_") := by decide +kernel
      rw [nameOf_of_isTaken htaken]
      exact hall identifier (mem_of_isTaken htaken)
  | false => rwa [nameOf_of_not_isTaken htaken]

/-- Identifiers of ASCII characters have the shape of names in scripts too. -/
theorem isName_of_isAscii {identifier : String} (hname : IsName identifier)
    (hascii : identifier.toList.all Unicode.NormalForm.isAscii = true) :
    isName identifier = true := by
  by_cases hconstant : identifier = constantName
  · rw [hconstant]
    decide
  · exact (IsPlain.isReadable ⟨hname, hascii, hconstant⟩).ofScript

/-- Renaming does not make an identifier the name that cannot be given a value, nor another one of
that name. -/
theorem normalName_nameOf_eq_constantName_iff (identifier : String) :
    normalName (nameOf identifier) = constantName ↔ normalName identifier = constantName := by
  cases htaken : isTaken identifier with
  | true =>
      have hall : ∀ taken ∈ keywords ++ reliedOn,
          taken.toList.all Unicode.NormalForm.isAscii = true ∧ taken ++ "_" ≠ constantName ∧
            taken ≠ constantName := by
        decide +kernel
      obtain ⟨hascii, hlong, hshort⟩ := hall identifier (mem_of_isTaken htaken)
      have hself : normalName identifier = identifier := Unicode.NormalForm.ofText_of_ascii hascii
      rw [normalName_nameOf_of_isTaken htaken, hself, nameOf_of_isTaken htaken]
      exact iff_of_false hlong hshort
  | false => rw [nameOf_of_not_isTaken htaken]

/-! ## Names of definitions -/

/-- Names written from origins can be read if the identifiers among the origins can. -/
theorem isName_origins_iff (origins : List Origin) :
    (∀ name ∈ origins.map Origin.name, isName name = true) ↔
      ∀ identifier ∈ origins.filterMap Origin.identifier?, isName identifier = true := by
  induction origins with
  | nil => simp
  | cons origin origins ih =>
      have hdivision : isName divisionName = true := by decide
      rw [List.map_cons, List.forall_mem_cons, ih]
      cases origin with
      | identifier identifier =>
          rw [Origin.identifiers_cons, List.forall_mem_cons, Origin.name, isName_nameOf]
      | division => rw [Origin.identifiers_division, Origin.name, and_iff_right hdivision]

/-- The order in which the names of a definition are met does not matter. -/
theorem forall_mem_mentioned {property : String → Prop} (definition : Definition) :
    (∀ name ∈ definition.name :: mentioned definition.body, property name) ↔
      ∀ name ∈ definition.names, property name := by
  rw [Definition.names, mentioned, List.forall_mem_cons, List.forall_mem_cons,
    List.forall_mem_flatMap, List.forall_mem_flatMap]
  simp only [Stmt.names, List.forall_mem_append, and_comm]

theorem assigned_bodyOf (body : List TinyC.Stmt) :
    assigned (bodyOf body) = (body.filterMap TinyC.Stmt.bound?).map nameOf := by
  have hassigned : (fun statement => (Stmt.ofStmt statement).assigned?) =
      fun statement : TinyC.Stmt => statement.bound?.map nameOf := by
    funext statement
    cases statement <;> rfl
  cases body with
  | nil => rfl
  | cons statement rest =>
      rw [bodyOf, if_neg (by simp), assigned, List.filterMap_map, List.map_filterMap]
      exact congrArg (List.filterMap · (statement :: rest)) hassigned

theorem brackets_bodyOf_iff {limit : Nat} (body : List TinyC.Stmt) :
    (∀ expression ∈ (bodyOf body).filterMap Stmt.expression?, expression.brackets ≤ limit) ↔
      ∀ expression ∈ body.flatMap TinyC.Stmt.expressions,
        (Expr.ofExpr expression).brackets ≤ limit := by
  have hstatement : ∀ statement : TinyC.Stmt,
      (∀ expression, (Stmt.ofStmt statement).expression? = some expression →
          expression.brackets ≤ limit) ↔
        ∀ expression ∈ statement.expressions, (Expr.ofExpr expression).brackets ≤ limit := by
    intro statement
    rw [← brackets_ofStmt_le_iff, Stmt.brackets]
    cases (Stmt.ofStmt statement).expression? <;> simp
  rw [List.forall_mem_filterMap, List.forall_mem_flatMap, bodyOf]
  cases body with
  | nil => simp [Stmt.expression?]
  | cons statement rest =>
      rw [if_neg (by simp), List.forall_mem_map]
      exact forall₂_congr fun statement _ => hstatement statement

/-- A function is accepted if its names can be read, none that gets a value is the one that cannot,
and its expressions are not too deep. -/
theorem isAccepted_ofFunction_iff (function : Function) :
    (Definition.ofFunction function).isAccepted = true ↔
      (∀ identifier ∈ function.names, isName identifier = true) ∧
        (∀ identifier ∈ function.name :: function.bound, normalName identifier ≠ constantName) ∧
        ∀ expression ∈ function.expressions, (Expr.ofExpr expression).brackets ≤ bracketLimit := by
  have hbound : (Definition.ofFunction function).name ::
      assigned (Definition.ofFunction function).body =
        (function.name :: function.bound).map nameOf :=
    congrArg (nameOf function.name :: ·) (assigned_bodyOf function.body)
  rw [Definition.isAccepted, Bool.and_eq_true, Bool.and_eq_true, List.all_eq_true,
    forall_mem_mentioned, names_ofFunction, isName_origins_iff, identifiers_ofFunction, and_assoc,
    hbound]
  refine and_congr_right fun _ => and_congr ?_ ?_
  · rw [List.all_eq_true, List.forall_mem_map]
    simp only [decide_eq_true_eq, ne_eq, normalName_nameOf_eq_constantName_iff]
  · rw [List.all_eq_true, Function.expressions, ← brackets_bodyOf_iff]
    simp only [decide_eq_true_eq]
    rfl

/-! ## Programs -/

/-- What the names in the script of a program are like. -/
structure WritesNames (program : Program) : Prop where
  /-- They are the identifiers of the program in their order, renamed, and those of divisions. -/
  written : (ofProgram program).identifiers = program.names.map nameOf
  /-- Each of them has the shape of an identifier, and none is a reserved word. -/
  shaped : ∀ name ∈ (ofProgram program).definitions.flatMap Definition.names,
    IsName name ∧ name ∉ reserved
  /-- A name has the shape of names in scripts exactly if its identifier has it. -/
  spelled : ∀ identifier ∈ program.names, isName (nameOf identifier) = isName identifier
  /-- Identifiers of ASCII characters have it, and are their own normal form. -/
  ascii : ∀ identifier ∈ program.names,
    identifier.toList.all Unicode.NormalForm.isAscii = true →
      isName identifier = true ∧ normalName identifier = identifier
  /-- The script is accepted exactly if all identifiers have it, none that is defined, declared or
  assigned is another form of the name that cannot be given a value, and no expression is too
  deep. -/
  accepted : (ofProgram program).isAccepted = true ↔
    (∀ identifier ∈ program.names, isName identifier = true) ∧
      (∀ function ∈ program.functions, ∀ identifier ∈ function.name :: function.bound,
        normalName identifier ≠ constantName) ∧
      ∀ expression ∈ program.expressions, (Expr.ofExpr expression).brackets ≤ bracketLimit

theorem isAccepted_ofProgram_iff (program : Program) :
    (ofProgram program).isAccepted = true ↔
      (∀ identifier ∈ program.names, isName identifier = true) ∧
        (∀ function ∈ program.functions, ∀ identifier ∈ function.name :: function.bound,
          normalName identifier ≠ constantName) ∧
        ∀ expression ∈ program.expressions,
          (Expr.ofExpr expression).brackets ≤ bracketLimit := by
  rw [isAccepted, List.all_eq_true, ofProgram, List.forall_mem_map, Program.names,
    Program.expressions, List.forall_mem_flatMap, List.forall_mem_flatMap]
  simp only [isAccepted_ofFunction_iff, forall_and]

/-- The names in the script of a program that was read are identifiers and no reserved words.  They
can all be read and given values as the script asks for exactly if the identifiers of the program
have the shape of names in scripts and none of them that gets a value is the one that cannot. -/
theorem names_accepted {source : String} {program : Program}
    (hread : Program.ofText source = .ok program) : WritesNames program := by
  have hnames := isName_of_ofText hread
  constructor
  case written => exact identifiers_ofProgram program
  case shaped =>
    intro name hname
    rw [names_ofProgram] at hname
    obtain ⟨origin, horigin, rfl⟩ := List.mem_map.1 hname
    cases origin with
    | identifier identifier =>
        have hidentifier : identifier ∈ program.names := by
          rw [← origins_identifiers]
          exact List.mem_filterMap.2 ⟨_, horigin, rfl⟩
        have hname := hnames identifier hidentifier
        exact ⟨isName_nameOf_of_isName hname, not_reserved_nameOf hname.ne_return⟩
    | division => exact ⟨by decide, by decide⟩
  case spelled => exact fun identifier _ => isName_nameOf identifier
  case ascii =>
    exact fun identifier hidentifier hascii =>
      ⟨isName_of_isAscii (hnames identifier hidentifier) hascii,
        Unicode.NormalForm.ofText_of_ascii hascii⟩
  case accepted => exact isAccepted_ofProgram_iff program

/-! ## Concrete programs -/

/-- A text with reserved words and the name of the constant among its identifiers. -/
def reservedNames : String :=
  "int class() \x7b return __debug__; \x7d int main() \x7b int None = class(); if = None; \x7d"

/-- The program in that text. -/
def reservedProgram : Program :=
  ⟨[⟨"class", [.returns (some (.name "__debug__"))]⟩,
    ⟨"main", [.declare "None" (some (.call "class" [])), .assign "if" (.name "None")]⟩]⟩

theorem names_accepted_reserved :
    Program.ofText reservedNames = .ok reservedProgram ∧
      (ofProgram reservedProgram).identifiers =
        ["class_", "__debug__", "main", "None_", "class_", "if_", "None_"] ∧
      (ofProgram reservedProgram).isAccepted = true := by
  have hread : Program.ofText reservedNames = .ok reservedProgram :=
    ofText_eq_ok_of_toOption (by decide +kernel)
  have hwrites := names_accepted hread
  refine ⟨hread, hwrites.written.trans (by decide +kernel), hwrites.accepted.2 ⟨?_, ?_, ?_⟩⟩
  · intro identifier hidentifier
    exact (hwrites.ascii identifier hidentifier
      (List.all_eq_true.1 (by decide +kernel : reservedProgram.names.all fun identifier =>
        identifier.toList.all Unicode.NormalForm.isAscii) identifier hidentifier)).1
  · decide +kernel
  · decide

/-- A text in which a variable has a superscript in its name. -/
def squared : String := "int main() \x7b int x² = 1; return 0; \x7d"

/-- The program in that text. -/
def squaredProgram : Program :=
  ⟨[⟨"main", [.declare "x²" (some (.number 1)), .returns (some (.number 0))]⟩]⟩

/-- A text in which a variable has the name that cannot be given a value. -/
def constant : String := "int main() \x7b int __debug__ = 1; return 0; \x7d"

/-- The program in that text. -/
def constantProgram : Program :=
  ⟨[⟨"main", [.declare "__debug__" (some (.number 1)), .returns (some (.number 0))]⟩]⟩

/-- Two programs that are read have scripts that are not accepted, one because a name has not the
shape of names, and the other because the name cannot be given a value. -/
theorem names_not_accepted :
    (Program.ofText squared = .ok squaredProgram ∧ "x²" ∈ (ofProgram squaredProgram).identifiers ∧
        isName "x²" = false ∧ (ofProgram squaredProgram).isAccepted = false) ∧
      Program.ofText constant = .ok constantProgram ∧
        "__debug__" ∈ (ofProgram constantProgram).identifiers ∧ constantName = "__debug__" ∧
        (ofProgram constantProgram).isAccepted = false :=
  ⟨⟨ofText_eq_ok_of_toOption (by decide +kernel), by decide +kernel, by decide +kernel,
      by decide +kernel⟩,
    ofText_eq_ok_of_toOption (by decide +kernel), by decide +kernel, rfl, by decide +kernel⟩

end Script

end TinyC
