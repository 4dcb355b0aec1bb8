import TinyC.Proofs.Text.Delimited

/-!
# The constructor form determines the tree

No two programs have the same constructor form, and neither have two functions,
statements or expressions, whatever names, numbers and strings are in them.

## Strategy

Every tree is written as a node: a name, and between parentheses its parts.  The
name tells which parts there are, and each of them is delimited
(`IsDelimited`), so they are read off one after the other.
-/

namespace TinyC

/-! ## Nodes -/

/-- A node: its name, and what stands between its parentheses. -/
def node (label parts : String) : String := label ++ "(" ++ parts ++ ")"

theorem toList_node (label parts : String) (rest : List Char) :
    (node label parts).toList ++ rest =
      label.toList ++ '(' :: (parts.toList ++ ')' :: rest) := by
  simp [node]

/-- Nodes that are written alike have the same name, and the same between their parentheses. -/
theorem node_inj {label label' parts parts' : String} {rest after : List Char}
    (hlabel : '(' ∉ label.toList) (hlabel' : '(' ∉ label'.toList)
    (heq : (node label parts).toList ++ rest = (node label' parts').toList ++ after) :
    label = label' ∧ parts.toList ++ ')' :: rest = parts'.toList ++ ')' :: after := by
  rw [toList_node, toList_node] at heq
  obtain ⟨hsame, hparts⟩ := append_cons_inj hlabel hlabel' heq
  exact ⟨String.toList_inj.1 hsame, hparts⟩

/-! ## Expressions -/

namespace Expr

/-- The name of the node of an expression. -/
def label : Expr → String
  | .number _ => "Number"
  | .name _ => "Name"
  | .string _ => "String"
  | .binary _ _ _ => "Binary"
  | .call _ _ => "Call"

/-- The parts of an expression as they are written. -/
def parts : Expr → String
  | .number value => Numeral.ofInt value.toInt
  | .name identifier => Quoted.text identifier
  | .string value => Quoted.text value
  | .binary operator left right =>
      Quoted.text operator.sign ++ ", " ++ left.constructorForm ++ ", " ++ right.constructorForm
  | .call function arguments =>
      Quoted.text function ++ ", " ++ bracketed (arguments.map constructorForm)

theorem constructorForms_eq_map (expressions : List Expr) :
    constructorForms expressions = expressions.map constructorForm := by
  induction expressions with
  | nil => rfl
  | cons first rest ih => rw [constructorForms, ih, List.map_cons]

theorem constructorForm_eq (expression : Expr) :
    expression.constructorForm = node expression.label expression.parts := by
  cases expression <;>
    simp [constructorForm, node, label, parts, constructorForms_eq_map, ← String.toList_inj]

theorem not_mem_label (expression : Expr) : '(' ∉ expression.label.toList := by
  cases expression <;> simp [label]

/-- A number does not close a node. -/
theorem not_mem_ofInt (value : Int) : ')' ∉ (Numeral.ofInt value).toList := by
  intro hmem
  rcases Numeral.eq_or_isDigit_of_mem_ofInt hmem with hminus | hdigit
  · exact absurd hminus (by decide)
  · exact absurd hdigit (by decide)

/-- Expressions begin with a capital letter. -/
theorem constructorForm_ne_cons {c : Char} (hc : c.isUpper = false) (expression : Expr)
    (rest after : List Char) : expression.constructorForm.toList ++ rest ≠ c :: after := by
  rw [constructorForm_eq, toList_node]
  intro heq
  cases expression <;>
    · simp only [label] at heq
      obtain ⟨rfl, -⟩ := List.cons_eq_cons.1 heq
      exact absurd hc (by decide)

mutual

theorem isDelimited_constructorForm (expression : Expr) :
    IsDelimited constructorForm expression := by
  intro other rest after heq
  rw [constructorForm_eq, constructorForm_eq] at heq
  obtain ⟨hlabel, hparts⟩ := node_inj (not_mem_label expression) (not_mem_label other) heq
  cases expression with
  | number value =>
      obtain ⟨value', rfl⟩ : ∃ value', other = .number value' := by
        cases other <;> simp [label] at hlabel ⊢
      obtain ⟨hvalue, hrest⟩ :=
        append_cons_inj (not_mem_ofInt value.toInt) (not_mem_ofInt value'.toInt) hparts
      obtain rfl := Int64.toInt_inj.1 (Numeral.ofInt_injective (String.toList_inj.1 hvalue))
      exact ⟨rfl, hrest⟩
  | name identifier =>
      obtain ⟨identifier', rfl⟩ : ∃ identifier', other = .name identifier' := by
        cases other <;> simp [label] at hlabel ⊢
      obtain ⟨rfl, hrest⟩ := Quoted.isDelimited_text identifier hparts
      exact ⟨rfl, List.tail_eq_of_cons_eq hrest⟩
  | string value =>
      obtain ⟨value', rfl⟩ : ∃ value', other = .string value' := by
        cases other <;> simp [label] at hlabel ⊢
      obtain ⟨rfl, hrest⟩ := Quoted.isDelimited_text value hparts
      exact ⟨rfl, List.tail_eq_of_cons_eq hrest⟩
  | binary operator left right =>
      obtain ⟨operator', left', right', rfl⟩ :
          ∃ operator' left' right', other = .binary operator' left' right' := by
        cases other <;> simp [label] at hlabel ⊢
      simp only [parts, String.toList_append, List.append_assoc] at hparts
      obtain ⟨hsign, hleft⟩ := Quoted.isDelimited_text operator.sign hparts
      obtain rfl := Operator.sign_injective hsign
      obtain ⟨rfl, hright⟩ := isDelimited_constructorForm left (List.append_cancel_left hleft)
      obtain ⟨rfl, hrest⟩ := isDelimited_constructorForm right (List.append_cancel_left hright)
      exact ⟨rfl, List.tail_eq_of_cons_eq hrest⟩
  | call function arguments =>
      obtain ⟨function', arguments', rfl⟩ :
          ∃ function' arguments', other = .call function' arguments' := by
        cases other <;> simp [label] at hlabel ⊢
      simp only [parts, String.toList_append, List.append_assoc] at hparts
      obtain ⟨rfl, harguments⟩ := Quoted.isDelimited_text function hparts
      obtain ⟨rfl, hrest⟩ := isDelimited_bracketed (isDelimited_of_mem arguments)
        (constructorForm_ne_cons (by decide)) (List.append_cancel_left harguments)
      exact ⟨rfl, List.tail_eq_of_cons_eq hrest⟩

theorem isDelimited_of_mem (expressions : List Expr) :
    ∀ expression ∈ expressions, IsDelimited constructorForm expression := by
  cases expressions with
  | nil => simp
  | cons first rest =>
      exact List.forall_mem_cons.2 ⟨isDelimited_constructorForm first, isDelimited_of_mem rest⟩

end

end Expr

/-! ## Statements -/

namespace Stmt

/-- The name of the node of a statement. -/
def label : Stmt → String
  | .declare _ _ => "VarDecl"
  | .assign _ _ => "Assign"
  | .returns _ => "Return"
  | .evaluate _ => "ExprStmt"

/-- The parts of a statement as they are written. -/
def parts : Stmt → String
  | .declare name none => Quoted.text name
  | .declare name (some init) => Quoted.text name ++ ", " ++ init.constructorForm
  | .assign name value => Quoted.text name ++ ", " ++ value.constructorForm
  | .returns none => ""
  | .returns (some value) => value.constructorForm
  | .evaluate expression => expression.constructorForm

theorem constructorForm_eq (statement : Stmt) :
    statement.constructorForm = node statement.label statement.parts := by
  cases statement with
  | declare name init =>
      cases init <;> simp [constructorForm, node, label, parts, ← String.toList_inj]
  | assign name value => simp [constructorForm, node, label, parts, ← String.toList_inj]
  | returns value => cases value <;> simp [constructorForm, node, label, parts]
  | evaluate expression => simp [constructorForm, node, label, parts]

theorem not_mem_label (statement : Stmt) : '(' ∉ statement.label.toList := by
  cases statement <;> simp [label]

theorem toList_parts_declare (name : String) (init : Option Expr) :
    (parts (.declare name init)).toList = (Quoted.text name).toList ++
      (init.map fun init => ", ".toList ++ init.constructorForm.toList).getD [] := by
  cases init <;> simp [parts]

theorem constructorForm_ne_bracket (statement : Stmt) (rest after : List Char) :
    statement.constructorForm.toList ++ rest ≠ ']' :: after := by
  rw [constructorForm_eq]
  cases statement <;> simp [node, label]

theorem isDelimited_constructorForm (statement : Stmt) :
    IsDelimited constructorForm statement := by
  intro other rest after heq
  rw [constructorForm_eq, constructorForm_eq] at heq
  obtain ⟨hlabel, hparts⟩ := node_inj (not_mem_label statement) (not_mem_label other) heq
  cases statement with
  | declare name init =>
      obtain ⟨name', init', rfl⟩ : ∃ name' init', other = .declare name' init' := by
        cases other <;> simp [label] at hlabel ⊢
      -- After the name there is a comma or the parenthesis that closes the node.
      rw [toList_parts_declare, toList_parts_declare, List.append_assoc, List.append_assoc]
        at hparts
      obtain ⟨rfl, hinit⟩ := Quoted.isDelimited_text name hparts
      cases init with
      | none =>
          cases init' with
          | none => exact ⟨rfl, List.tail_eq_of_cons_eq hinit⟩
          | some init' => simp at hinit
      | some init =>
          cases init' with
          | none => simp at hinit
          | some init' =>
              simp only [Option.map_some, Option.getD_some, List.append_assoc] at hinit
              obtain ⟨rfl, hrest⟩ :=
                Expr.isDelimited_constructorForm init (List.append_cancel_left hinit)
              exact ⟨rfl, List.tail_eq_of_cons_eq hrest⟩
  | assign name value =>
      obtain ⟨name', value', rfl⟩ : ∃ name' value', other = .assign name' value' := by
        cases other <;> simp [label] at hlabel ⊢
      simp only [parts, String.toList_append, List.append_assoc] at hparts
      obtain ⟨rfl, hvalue⟩ := Quoted.isDelimited_text name hparts
      obtain ⟨rfl, hrest⟩ :=
        Expr.isDelimited_constructorForm value (List.append_cancel_left hvalue)
      exact ⟨rfl, List.tail_eq_of_cons_eq hrest⟩
  | returns value =>
      obtain ⟨value', rfl⟩ : ∃ value', other = .returns value' := by
        cases other <;> simp [label] at hlabel ⊢
      cases value with
      | none =>
          cases value' with
          | none => exact ⟨rfl, List.tail_eq_of_cons_eq hparts⟩
          | some value' => exact absurd hparts.symm (Expr.constructorForm_ne_cons (by decide) value' _ _)
      | some value =>
          cases value' with
          | none => exact absurd hparts (Expr.constructorForm_ne_cons (by decide) value _ _)
          | some value' =>
              obtain ⟨rfl, hrest⟩ := Expr.isDelimited_constructorForm value hparts
              exact ⟨rfl, List.tail_eq_of_cons_eq hrest⟩
  | evaluate expression =>
      obtain ⟨expression', rfl⟩ : ∃ expression', other = .evaluate expression' := by
        cases other <;> simp [label] at hlabel ⊢
      obtain ⟨rfl, hrest⟩ := Expr.isDelimited_constructorForm expression hparts
      exact ⟨rfl, List.tail_eq_of_cons_eq hrest⟩

end Stmt

/-! ## Functions and programs -/

theorem Function.isDelimited_constructorForm (function : Function) :
    IsDelimited Function.constructorForm function := by
  have hform : ∀ name body rest, (Function.constructorForm ⟨name, body⟩).toList ++ rest =
      "Function(".toList ++ ((Quoted.text name).toList ++ (", ".toList ++
        ((bracketed (body.map Stmt.constructorForm)).toList ++ ')' :: rest))) := by
    simp [Function.constructorForm]
  rintro ⟨otherName, otherBody⟩ rest after heq
  obtain ⟨name, body⟩ := function
  rw [hform, hform] at heq
  obtain ⟨rfl, hbody⟩ := Quoted.isDelimited_text name (List.append_cancel_left heq)
  obtain ⟨rfl, hrest⟩ := isDelimited_bracketed
    (fun statement _ => Stmt.isDelimited_constructorForm statement) Stmt.constructorForm_ne_bracket
    (List.append_cancel_left hbody)
  exact ⟨rfl, List.tail_eq_of_cons_eq hrest⟩

theorem Function.constructorForm_ne_bracket (function : Function) (rest after : List Char) :
    function.constructorForm.toList ++ rest ≠ ']' :: after := by
  simp [Function.constructorForm]

theorem Program.isDelimited_constructorForm (program : Program) :
    IsDelimited Program.constructorForm program := by
  have hform : ∀ functions rest, (Program.constructorForm ⟨functions⟩).toList ++ rest =
      "Program(".toList ++
        ((bracketed (functions.map Function.constructorForm)).toList ++ ')' :: rest) := by
    simp [Program.constructorForm]
  rintro ⟨otherFunctions⟩ rest after heq
  obtain ⟨functions⟩ := program
  rw [hform, hform] at heq
  obtain ⟨rfl, hrest⟩ := isDelimited_bracketed
    (fun function _ => Function.isDelimited_constructorForm function)
    Function.constructorForm_ne_bracket (List.append_cancel_left heq)
  exact ⟨rfl, List.tail_eq_of_cons_eq hrest⟩

/-- Programs, functions, statements and expressions are each told apart by their constructor
forms. -/
theorem constructorForm_injective :
    Program.constructorForm.Injective ∧ Function.constructorForm.Injective ∧
      Stmt.constructorForm.Injective ∧ Expr.constructorForm.Injective :=
  ⟨injective_of_isDelimited Program.isDelimited_constructorForm,
    injective_of_isDelimited Function.isDelimited_constructorForm,
    injective_of_isDelimited Stmt.isDelimited_constructorForm,
    injective_of_isDelimited Expr.isDelimited_constructorForm⟩

end TinyC
