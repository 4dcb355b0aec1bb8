import TinyC.Proofs.SourceText.Names
import TinyC.Script.Acceptance

/-!
# The renaming of identifiers

The names in the script of a program are the identifiers of the program, each
renamed for itself, and besides them only the name of the division.  Renaming
puts an underscore behind a taken name and keeps every other, so it joins a
taken name and the identifier that is spelled like it with the underscore, and
no other two.  Names that are their own normal form are renamed to names that
are, hence what is kept apart here stays apart when the script is read.
-/

namespace TinyC

namespace Script

/-! ## The names in a script -/

/-- The name that an expression holds itself. -/
def Expr.name? : Expr → Option String
  | .name identifier => some identifier
  | .call function _ => some function
  | .integer _ | .text _ | .arithmetic _ _ _ => none

theorem Expr.isCollected_names :
    IsCollected operands (fun expression => expression.name?.toList) names namesOfAll where
  node expression := by cases expression <;> simp [names, namesOfAll, operands, name?]
  nil := rfl
  cons _ _ := rfl

/-- The names in a statement: the one that is given a value, then those of the expression. -/
def Stmt.names (statement : Stmt) : List String :=
  statement.assigned?.toList ++ (statement.expression?.map Expr.names).getD []

/-- The names in a definition, its own first. -/
def Definition.names (definition : Definition) : List String :=
  definition.name :: definition.body.flatMap Stmt.names

/-- Those of the names that are not the name of the division. -/
def own (names : List String) : List String := names.filter fun name => name ≠ divisionName

/-- The identifiers in the definitions of a script. -/
def identifiers (script : Script) : List String :=
  own (script.definitions.flatMap Definition.names)

/-! ## What renaming joins -/

/-- The first identifier is renamed to what the second one is. -/
def Displaces (first second : String) : Prop := isTaken first = true ∧ second = first ++ "_"

instance (first second : String) : Decidable (Displaces first second) :=
  inferInstanceAs (Decidable (_ ∧ _))

theorem mem_of_isTaken {identifier : String} (htaken : isTaken identifier = true) :
    identifier ∈ keywords ++ reliedOn := by
  simpa [isTaken] using htaken

/-- No taken name is another one with an underscore. -/
theorem isTaken_append {identifier : String} (htaken : isTaken identifier = true) :
    isTaken (identifier ++ "_") = false := by
  have hall : ∀ taken ∈ keywords ++ reliedOn, isTaken (taken ++ "_") = false := by
    decide +kernel
  exact hall identifier (mem_of_isTaken htaken)

theorem nameOf_of_isTaken {identifier : String} (htaken : isTaken identifier = true) :
    nameOf identifier = identifier ++ "_" := if_pos htaken

theorem nameOf_of_not_isTaken {identifier : String} (hfree : isTaken identifier = false) :
    nameOf identifier = identifier := by
  simp [nameOf, hfree]

/-- A name that an identifier is renamed to is not taken. -/
theorem isTaken_nameOf (identifier : String) : isTaken (nameOf identifier) = false := by
  cases htaken : isTaken identifier with
  | true => rw [nameOf_of_isTaken htaken, isTaken_append htaken]
  | false => rw [nameOf_of_not_isTaken htaken, htaken]

theorem nameOf_ne_divisionName (identifier : String) : nameOf identifier ≠ divisionName := by
  intro hname
  have hfree := isTaken_nameOf identifier
  rw [hname] at hfree
  exact absurd hfree (by decide)

/-- Two identifiers are renamed to the same name only if one of them displaces the other. -/
theorem nameOf_eq_iff {first second : String} (hne : first ≠ second) :
    nameOf first = nameOf second ↔ Displaces first second ∨ Displaces second first := by
  cases hfirst : isTaken first with
  | true =>
      cases hsecond : isTaken second with
      | true =>
          have hfree : ∀ {taken other}, isTaken taken = true → isTaken other = true →
              taken ≠ other ++ "_" := by
            rintro taken other htaken hother rfl
            rw [isTaken_append hother] at htaken
            exact absurd htaken (by decide)
          simp [nameOf_of_isTaken, Displaces, hfirst, hsecond, hne, hfree hfirst hsecond,
            hfree hsecond hfirst]
      | false =>
          simp [nameOf_of_isTaken hfirst, nameOf_of_not_isTaken hsecond, Displaces, hfirst,
            hsecond, eq_comm]
  | false =>
      cases hsecond : isTaken second with
      | true =>
          simp [nameOf_of_isTaken hsecond, nameOf_of_not_isTaken hfirst, Displaces, hfirst,
            hsecond]
      | false =>
          simp [nameOf_of_not_isTaken, Displaces, hfirst, hsecond, hne]

/-- What a taken name is renamed to is its own normal form. -/
theorem normalName_nameOf_of_isTaken {identifier : String} (htaken : isTaken identifier = true) :
    normalName (nameOf identifier) = nameOf identifier := by
  have hascii : ∀ taken ∈ keywords ++ reliedOn,
      (taken ++ "_").toList.all Unicode.NormalForm.isAscii = true := by
    decide +kernel
  rw [nameOf_of_isTaken htaken]
  exact Unicode.NormalForm.ofText_of_ascii (hascii identifier (mem_of_isTaken htaken))

/-- Renaming does not lead out of the names that are their own normal form. -/
theorem normalName_nameOf {identifier : String} (hnormal : normalName identifier = identifier) :
    normalName (nameOf identifier) = nameOf identifier := by
  cases htaken : isTaken identifier with
  | true => exact normalName_nameOf_of_isTaken htaken
  | false => rw [nameOf_of_not_isTaken htaken, hnormal]

/-! ## Each identifier is renamed for itself -/

theorem own_append (before after : List String) :
    own (before ++ after) = own before ++ own after := List.filter_append ..

theorem own_cons_nameOf (identifier : String) (names : List String) :
    own (nameOf identifier :: names) = nameOf identifier :: own names :=
  List.filter_cons_of_pos (by simpa using nameOf_ne_divisionName identifier)

theorem own_flatMap {α β : Type} {namesOf : α → List String} {names : β → List String}
    {counterpart : β → α} {items : List β}
    (hitems : ∀ item ∈ items, own (namesOf (counterpart item)) = (names item).map nameOf) :
    own ((items.map counterpart).flatMap namesOf) = (items.flatMap names).map nameOf := by
  induction items with
  | nil => rfl
  | cons item items ih =>
      obtain ⟨hitem, hitems⟩ := List.forall_mem_cons.1 hitems
      rw [List.map_cons, List.flatMap_cons, List.flatMap_cons, own_append, List.map_append, hitem,
        ih hitems]

theorem own_names_ofExpr (expression : TinyC.Expr) :
    own (Expr.ofExpr expression).names = expression.names.map nameOf := by
  refine (Expr.isCollected_names.ofExpr.image own rfl own_append).eq
    (TinyC.Expr.isCollected_names.image (List.map nameOf) rfl fun _ _ => List.map_append)
    (fun expression => ?_) expression
  cases expression with
  | number value => rfl
  | name identifier => exact own_cons_nameOf identifier []
  | string value => rfl
  | binary operator left right =>
      -- Only the division brings a name, and it is none of the program's.
      cases operator <;> rfl
  | call function arguments => exact own_cons_nameOf function []

theorem own_names_ofStmt (statement : TinyC.Stmt) :
    own (Stmt.ofStmt statement).names = statement.names.map nameOf := by
  cases statement with
  | declare name init =>
      cases init with
      | none => exact own_cons_nameOf name []
      | some init =>
          simpa [Stmt.ofStmt, Stmt.names, Stmt.assigned?, Stmt.expression?, TinyC.Stmt.names,
            own_cons_nameOf] using own_names_ofExpr init
  | assign name value =>
      simpa [Stmt.ofStmt, Stmt.names, Stmt.assigned?, Stmt.expression?, TinyC.Stmt.names,
        own_cons_nameOf] using own_names_ofExpr value
  | returns value =>
      cases value with
      | none => rfl
      | some value =>
          simpa [Stmt.ofStmt, Stmt.names, Stmt.assigned?, Stmt.expression?, TinyC.Stmt.names]
            using own_names_ofExpr value
  | evaluate expression => exact own_names_ofExpr expression

theorem own_names_ofFunction (function : Function) :
    own (Definition.ofFunction function).names = function.names.map nameOf := by
  obtain ⟨name, body⟩ := function
  rw [Definition.ofFunction, Definition.names, Function.names, own_cons_nameOf, List.map_cons]
  refine congrArg (nameOf name :: ·) ?_
  cases body with
  | nil => rfl
  | cons statement rest => exact own_flatMap fun statement _ => own_names_ofStmt statement

theorem identifiers_ofProgram (program : Program) :
    (ofProgram program).identifiers = program.names.map nameOf :=
  own_flatMap fun function _ => own_names_ofFunction function

/-! ## Identifiers that stay apart -/

/-- The identifiers of the script are those of the program, each renamed for itself, and two
different ones stay different unless one of them displaces the other; they also stay different
when the script is read if they are in normal form. -/
theorem nameOf_ne_of_ne (program : Program) :
    (ofProgram program).identifiers = program.names.map nameOf ∧
      ∀ first ∈ program.names, ∀ second ∈ program.names, first ≠ second →
        ¬ Displaces first second → ¬ Displaces second first →
          nameOf first ≠ nameOf second ∧
          (normalName first = first → normalName second = second →
            normalName (nameOf first) ≠ normalName (nameOf second)) := by
  refine ⟨identifiers_ofProgram program, ?_⟩
  intro first _ second _ hne hfirst hsecond
  have hnames : nameOf first ≠ nameOf second := fun hnames =>
    ((nameOf_eq_iff hne).1 hnames).elim hfirst hsecond
  refine ⟨hnames, fun hnormal hother => ?_⟩
  rwa [normalName_nameOf hnormal, normalName_nameOf hother]

/-- A text with a variable named like a reserved word, and one named like another with an
underscore. -/
def keptApart : String := "int main() \x7b int if = 1; int while_ = 2; return if - while_; \x7d"

/-- The program in that text. -/
def keptApartProgram : Program :=
  ⟨[⟨"main", [.declare "if" (some (.number 1)), .declare "while_" (some (.number 2)),
    .returns (some (.binary .sub (.name "if") (.name "while_")))]⟩]⟩

theorem nameOf_ne_of_ne_keptApart :
    Program.ofText keptApart = .ok keptApartProgram ∧
      (ofProgram keptApartProgram).identifiers = ["main", "if_", "while_", "if_", "while_"] ∧
      nameOf "if" ≠ nameOf "while_" ∧
      normalName (nameOf "if") ≠ normalName (nameOf "while_") := by
  have hapart := nameOf_ne_of_ne keptApartProgram
  have hnames := hapart.2 "if" (by decide) "while_" (by decide) (by decide) (by decide) (by decide)
  exact ⟨ofText_eq_ok_of_toOption (by decide +kernel), hapart.1.trans (by decide +kernel),
    hnames.1, hnames.2 (Unicode.NormalForm.ofText_of_ascii (by decide))
      (Unicode.NormalForm.ofText_of_ascii (by decide))⟩

/-- A text in which one variable displaces another. -/
def joined : String := "int main() \x7b int if_ = 1; int if = 2; return if_; \x7d"

/-- The program in that text. -/
def joinedProgram : Program :=
  ⟨[⟨"main", [.declare "if_" (some (.number 1)), .declare "if" (some (.number 2)),
    .returns (some (.name "if_"))]⟩]⟩

/-- Two different variables of a program can be one in its script: what is returned here is the
value of the other. -/
theorem nameOf_eq_joined :
    Program.ofText joined = .ok joinedProgram ∧
      "if" ∈ joinedProgram.names ∧ "if_" ∈ joinedProgram.names ∧ "if" ≠ "if_" ∧
      nameOf "if" = nameOf "if_" ∧
      (ofProgram joinedProgram).definitions.map Definition.lines =
        [["", "", "def main():", "    if_ = 1", "    if_ = 2", "    return if_"]] :=
  ⟨ofText_eq_ok_of_toOption (by decide +kernel), by decide, by decide, by decide, by decide,
    by decide +kernel⟩

end Script

end TinyC
