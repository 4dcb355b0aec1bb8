import TinyC.Proofs.NormalForm
import TinyC.Proofs.Script.Functions
import TinyC.Script.Evaluation

/-!
# Where the names in a script come from

A name in a definition of a script comes from an identifier of the program, or
from a division, which is a call of a function of the first lines.  No identifier
is written as a reserved word or as one of the names on which every script
relies, so where one of these stands in the text, no identifier stands.

Scripts are read with all names in normal form, and there an identifier can be
one of these names without being written so.  That needs an identifier that is
not in normal form.
-/

namespace TinyC

open ScriptLanguage Lexical

namespace Script

/-! ## Origins -/

/-- Where a name in a definition comes from. -/
inductive Origin
  | identifier (identifier : String)
  | division
  deriving DecidableEq

namespace Origin

/-- The name that is written. -/
def name : Origin → String
  | .identifier source => nameOf source
  | .division => divisionName

/-- The identifier that is written. -/
def identifier? : Origin → Option String
  | .identifier source => some source
  | .division => none

mutual

/-- The origins of the names in the counterpart of an expression, in the order of the text. -/
def ofExpr : TinyC.Expr → List Origin
  | .number _ | .string _ => []
  | .name source => [.identifier source]
  | .binary .div left right => .division :: (ofExpr left ++ ofExpr right)
  | .binary _ left right => ofExpr left ++ ofExpr right
  | .call function arguments => .identifier function :: ofExprs arguments

/-- The origins of the names in the counterparts of the expressions of a list. -/
def ofExprs : List TinyC.Expr → List Origin
  | [] => []
  | first :: rest => ofExpr first ++ ofExprs rest

end

/-- The origin of the name that the counterpart of an expression holds itself. -/
def ofExpr? : TinyC.Expr → Option Origin
  | .name source => some (.identifier source)
  | .binary .div _ _ => some .division
  | .call function _ => some (.identifier function)
  | _ => none

theorem isCollected : IsCollected TinyC.Expr.operands
    (fun expression => (ofExpr? expression).toList) ofExpr ofExprs where
  node expression := by
    cases expression with
    | binary operator left right =>
        cases operator <;> simp [ofExpr, ofExprs, TinyC.Expr.operands, ofExpr?]
    | _ => simp [ofExpr, ofExprs, TinyC.Expr.operands, ofExpr?]
  nil := rfl
  cons _ _ := rfl

/-- The origins of the names in the counterpart of a statement. -/
def ofStmt : TinyC.Stmt → List Origin
  | .declare name init => .identifier name :: init.toList.flatMap ofExpr
  | .assign name value => .identifier name :: ofExpr value
  | .returns value => value.toList.flatMap ofExpr
  | .evaluate expression => ofExpr expression

/-- The origins of the names in the definition of a function. -/
def ofFunction (function : Function) : List Origin :=
  .identifier function.name :: function.body.flatMap ofStmt

/-- The origins of the names in the definitions of a program. -/
def ofProgram (program : Program) : List Origin := program.functions.flatMap ofFunction

end Origin

@[simp] theorem Origin.identifiers_cons (source : String) (origins : List Origin) :
    (Origin.identifier source :: origins).filterMap Origin.identifier? =
      source :: origins.filterMap Origin.identifier? := rfl

@[simp] theorem Origin.identifiers_division (origins : List Origin) :
    (Origin.division :: origins).filterMap Origin.identifier? =
      origins.filterMap Origin.identifier? := rfl

/-! ## The names in the definitions -/

theorem names_ofExpr (expression : TinyC.Expr) :
    (Expr.ofExpr expression).names = (Origin.ofExpr expression).map Origin.name := by
  refine Expr.isCollected_names.ofExpr.eq
    (Origin.isCollected.image (List.map Origin.name) rfl fun _ _ => List.map_append)
    (fun expression => ?_) expression
  cases expression with
  | binary operator left right => cases operator <;> rfl
  | _ => rfl

theorem identifiers_ofExpr (expression : TinyC.Expr) :
    (Origin.ofExpr expression).filterMap Origin.identifier? = expression.names := by
  refine (Origin.isCollected.image (List.filterMap Origin.identifier?) rfl
    fun _ _ => List.filterMap_append).eq TinyC.Expr.isCollected_names
    (fun expression => ?_) expression
  cases expression with
  | binary operator left right => cases operator <;> rfl
  | _ => rfl

theorem names_ofStmt (statement : TinyC.Stmt) :
    (Stmt.ofStmt statement).names = (Origin.ofStmt statement).map Origin.name := by
  cases statement with
  | declare name init =>
      cases init with
      | none => rfl
      | some init =>
          simpa [Stmt.ofStmt, Stmt.names, Stmt.assigned?, Stmt.expression?, Origin.ofStmt,
            Origin.name] using names_ofExpr init
  | assign name value =>
      simpa [Stmt.ofStmt, Stmt.names, Stmt.assigned?, Stmt.expression?, Origin.ofStmt,
        Origin.name] using names_ofExpr value
  | returns value =>
      cases value with
      | none => rfl
      | some value =>
          simpa [Stmt.ofStmt, Stmt.names, Stmt.assigned?, Stmt.expression?, Origin.ofStmt]
            using names_ofExpr value
  | evaluate expression => exact names_ofExpr expression

theorem identifiers_ofStmt (statement : TinyC.Stmt) :
    (Origin.ofStmt statement).filterMap Origin.identifier? = statement.names := by
  cases statement with
  | declare name init =>
      cases init with
      | none => rfl
      | some init =>
          simpa [Origin.ofStmt, TinyC.Stmt.names] using identifiers_ofExpr init
  | assign name value =>
      simpa [Origin.ofStmt, TinyC.Stmt.names] using identifiers_ofExpr value
  | returns value =>
      cases value with
      | none => rfl
      | some value => simpa [Origin.ofStmt, TinyC.Stmt.names] using identifiers_ofExpr value
  | evaluate expression => exact identifiers_ofExpr expression

/-- The names in a definition are those that its origins are written as. -/
theorem names_ofFunction (function : Function) :
    (Definition.ofFunction function).names = (Origin.ofFunction function).map Origin.name := by
  obtain ⟨name, body⟩ := function
  rw [Definition.ofFunction, Definition.names, Origin.ofFunction, List.map_cons, List.map_flatMap]
  refine congrArg (nameOf name :: ·) ?_
  cases body with
  | nil => rfl
  | cons statement rest =>
      rw [bodyOf, if_neg (by simp), List.flatMap_map]
      exact congrArg (List.flatMap · (statement :: rest)) (funext names_ofStmt)

theorem names_ofProgram (program : Program) :
    (ofProgram program).definitions.flatMap Definition.names =
      (Origin.ofProgram program).map Origin.name := by
  rw [ofProgram, Origin.ofProgram, List.flatMap_map, List.map_flatMap]
  exact congrArg (List.flatMap · program.functions) (funext names_ofFunction)

/-- The identifiers among the origins are the names in the program. -/
theorem identifiers_ofFunction (function : Function) :
    (Origin.ofFunction function).filterMap Origin.identifier? = function.names := by
  rw [Origin.ofFunction, Function.names, Origin.identifiers_cons, List.filterMap_flatMap]
  exact congrArg (fun namesOf => function.name :: function.body.flatMap namesOf)
    (funext identifiers_ofStmt)

theorem origins_identifiers (program : Program) :
    (Origin.ofProgram program).filterMap Origin.identifier? = program.names := by
  rw [Origin.ofProgram, Program.names, List.filterMap_flatMap]
  exact congrArg (List.flatMap · program.functions) (funext identifiers_ofFunction)

/-! ## The names in the text -/

/-- The name that a word is. -/
def nameIn? : ScriptLanguage.Word → Option String
  | .name text => some text
  | _ => none

/-- The names in rows, in the order of the text. -/
def namesIn (rows : List ScriptLanguage.Row) : List String :=
  rows.flatMap fun row => row.words.filterMap nameIn?

theorem namesIn_append (before after : List ScriptLanguage.Row) :
    namesIn (before ++ after) = namesIn before ++ namesIn after := List.flatMap_append

@[simp] theorem filterMap_nameIn_name (text : String) (words : List ScriptLanguage.Word) :
    (.name text :: words).filterMap nameIn? = text :: words.filterMap nameIn? := rfl

@[simp] theorem filterMap_nameIn_sign (text : String) (words : List ScriptLanguage.Word) :
    (.sign text :: words).filterMap nameIn? = words.filterMap nameIn? := rfl

@[simp] theorem filterMap_nameIn_keyword (text : String) (words : List ScriptLanguage.Word) :
    (.keyword text :: words).filterMap nameIn? = words.filterMap nameIn? := rfl

mutual

theorem filterMap_nameIn_words (expression : Expr) :
    expression.words.filterMap nameIn? = expression.names := by
  cases expression with
  | integer value => cases value <;> rfl
  | name identifier => rfl
  | text value => rfl
  | arithmetic operator left right =>
      simp [Expr.words, Expr.names, filterMap_nameIn_words left, filterMap_nameIn_words right]
  | call function arguments =>
      simp [Expr.words, Expr.names, filterMap_nameIn_argumentWords arguments]

theorem filterMap_nameIn_argumentWords (expressions : List Expr) :
    (Expr.argumentWords expressions).filterMap nameIn? = Expr.namesOfAll expressions := by
  cases expressions with
  | nil => rfl
  | cons first rest =>
      simp [Expr.argumentWords, Expr.namesOfAll, filterMap_nameIn_words first,
        filterMap_nameIn_otherWords rest]

theorem filterMap_nameIn_otherWords (expressions : List Expr) :
    (Expr.otherWords expressions).filterMap nameIn? = Expr.namesOfAll expressions := by
  cases expressions with
  | nil => rfl
  | cons first rest =>
      simp [Expr.otherWords, Expr.namesOfAll, filterMap_nameIn_words first,
        filterMap_nameIn_otherWords rest]

end

theorem filterMap_nameIn_line (statement : Stmt) :
    statement.words.filterMap nameIn? = statement.names := by
  cases statement with
  | assign name value =>
      simp [Stmt.words, Stmt.names, Stmt.assigned?, Stmt.expression?, filterMap_nameIn_words value]
  | returns value =>
      cases value with
      | none => rfl
      | some value =>
          simp [Stmt.words, Stmt.names, Stmt.assigned?, Stmt.expression?,
            filterMap_nameIn_words value]
  | evaluate expression => exact filterMap_nameIn_words expression
  | pass => rfl

theorem namesIn_definitionRows (function : Function) :
    namesIn (definitionRows function) = (Definition.ofFunction function).names := by
  rw [namesIn, definitionRows, List.flatMap_cons, List.flatMap_map, Definition.names]
  exact congrArg (fun namesOf => nameOf function.name :: (bodyOf function.body).flatMap namesOf)
    (funext filterMap_nameIn_line)

/-- The rows of the lines at the end of a script. -/
def startRows (program : Program) : List ScriptLanguage.Row :=
  if program.hasMain then
    [⟨0, [.keyword "if", .name "__name__", .sign "==", .text "__main__", .sign ":"]⟩,
      ⟨4, [.name "_sys", .sign ".", .name "exit", .sign "(", .name "main", .sign "(", .sign ")",
        .sign ")"]⟩]
  else []

theorem rows?_start (program : Program) :
    rows? ((((ofProgram program).entry.map entryLines).getD []).map String.toList) =
      some (startRows program) := by
  rw [ofProgram, startRows]
  cases program.hasMain with
  | false => rfl
  | true =>
      show rows? ((entryLines (nameOf "main")).map String.toList) = some _
      decide +kernel

theorem rows?_definitions {functions : List Function}
    (hnames : ∀ name ∈ functions.flatMap Function.names, IsSpelled name) :
    rows? (((functions.map Definition.ofFunction).flatMap Definition.lines).map String.toList) =
      some (functions.flatMap definitionRows) := by
  induction functions with
  | nil => rfl
  | cons function functions ih =>
      rw [List.flatMap_cons, List.forall_mem_append] at hnames
      rw [List.map_cons, List.flatMap_cons, List.map_append]
      exact rows?_append (rows?_definition hnames.1) (ih hnames.2)

/-- The text of the script of a program is read as the first lines, the definitions and the lines
at the end, if its names can be read. -/
theorem rows?_ofProgram {program : Program} (hnames : ∀ name ∈ program.names, IsSpelled name) :
    rows? (splitLines (ofProgram program).code.toList) =
      some (firstRows ++ program.functions.flatMap definitionRows ++ startRows program) := by
  have hlines := isInline_of_mem_lines fun name hname => (hnames name hname).ofProgram
  rw [splitLines_code_of_isInline hlines, lines, List.map_append, List.map_append]
  have hrows := rows?_append
    (rows?_append (rows?_append rows?_firstLines (rows?_definitions hnames)) (rows?_start program))
    rows?_end
  rwa [List.append_nil] at hrows

/-- The names in the lines at the end of a script. -/
def startNames (program : Program) : List String :=
  if program.hasMain then ["__name__", "_sys", "exit", "main"] else []

theorem namesIn_startRows (program : Program) :
    namesIn (startRows program) = startNames program := by
  rw [startRows, startNames]
  split <;> rfl

theorem namesIn_definitions (program : Program) :
    namesIn (program.functions.flatMap definitionRows) =
      (Origin.ofProgram program).map Origin.name := by
  rw [namesIn, List.flatMap_assoc, Origin.ofProgram, List.map_flatMap]
  refine congrArg (List.flatMap · program.functions) (funext fun function => ?_)
  exact (namesIn_definitionRows function).trans (names_ofFunction function)

/-! ## Names on which scripts rely -/

theorem nameOf_not_mem_reliedOn (identifier : String) : nameOf identifier ∉ reliedOn := by
  intro hmem
  have htaken : isTaken (nameOf identifier) = true := by simp [isTaken, hmem]
  rw [isTaken_nameOf] at htaken
  cases htaken

/-- What is renamed to a name with a relied-on normal form is not renamed at all. -/
theorem normalName_mem_reliedOn {identifier : String}
    (hmem : normalName (nameOf identifier) ∈ reliedOn) :
    isTaken identifier = false ∧ normalName identifier ∈ reliedOn := by
  cases htaken : isTaken identifier with
  | true =>
      rw [normalName_nameOf_of_isTaken htaken] at hmem
      exact absurd hmem (nameOf_not_mem_reliedOn identifier)
  | false => exact ⟨rfl, by rwa [nameOf_of_not_isTaken htaken] at hmem⟩

/-- No identifier of a program that was read is written as a reserved word or a name on which
scripts rely.  The names in the definitions, and in the text if its names can be read, are those of
the first lines, the identifiers, the divisions and those of the lines at the end, and where a name
in a definition is one of those on which scripts rely, it comes from a division.  This is true of
normal forms as well if no identifier has one of these names as its normal form, unless it is that
name itself. -/
theorem origins_of_ofText {source : String} {program : Program}
    (hread : Program.ofText source = .ok program) :
    (∀ identifier ∈ program.names,
        nameOf identifier ∉ reserved ∧ nameOf identifier ∉ reliedOn) ∧
      (Origin.ofProgram program).filterMap Origin.identifier? = program.names ∧
      (ofProgram program).definitions.flatMap Definition.names =
        (Origin.ofProgram program).map Origin.name ∧
      (∀ origin ∈ Origin.ofProgram program, origin.name ∈ reliedOn → origin = .division) ∧
      ((∀ identifier ∈ program.names, isName identifier = true) →
        ∃ rows, rows? (splitLines (ofProgram program).code.toList) = some rows ∧
          namesIn rows = namesIn firstRows ++ (Origin.ofProgram program).map Origin.name ++
            startNames program) ∧
      ((∀ identifier ∈ program.names, normalName identifier ∈ reliedOn → identifier ∈ reliedOn) →
        ∀ origin ∈ Origin.ofProgram program, normalName origin.name ∈ reliedOn →
          origin = .division) := by
  have hnames := isName_of_ofText hread
  have hreserved : ∀ identifier ∈ program.names, nameOf identifier ∉ reserved := by
    intro identifier hidentifier
    exact not_reserved_nameOf (hnames identifier hidentifier).ne_return
  refine ⟨fun identifier hidentifier =>
      ⟨hreserved identifier hidentifier, nameOf_not_mem_reliedOn identifier⟩,
    origins_identifiers program, names_ofProgram program, ?_, fun hshape => ?_, fun hnormal => ?_⟩
  · intro origin _ hmem
    cases origin with
    | identifier identifier => exact absurd hmem (nameOf_not_mem_reliedOn identifier)
    | division => rfl
  · have hspelled : ∀ name ∈ program.names, IsSpelled name := fun name hname =>
      ⟨hnames name hname, hshape name hname⟩
    refine ⟨_, rows?_ofProgram hspelled, ?_⟩
    rw [namesIn_append, namesIn_append, namesIn_definitions, namesIn_startRows]
  · intro origin horigin hmem
    cases origin with
    | identifier identifier =>
        obtain ⟨hfree, hrelied⟩ := normalName_mem_reliedOn hmem
        have hname : identifier ∈ program.names := by
          rw [← origins_identifiers]
          exact List.mem_filterMap.2 ⟨_, horigin, rfl⟩
        have htaken : isTaken identifier = true := by
          simp [isTaken, hnormal identifier hname hrelied]
        rw [hfree] at htaken
        cases htaken
    | division => rfl

/-- A text with a function that has the name of a library, and a division. -/
def borrowed : String :=
  "int _sys() \x7b return 7 / 2; \x7d int main() \x7b return _sys(); \x7d"

/-- The program in that text. -/
def borrowedProgram : Program :=
  ⟨[⟨"_sys", [.returns (some (.binary .div (.number 7) (.number 2)))]⟩,
    ⟨"main", [.returns (some (.call "_sys" []))]⟩]⟩

theorem origins_of_ofText_borrowed :
    Program.ofText borrowed = .ok borrowedProgram ∧
      (∃ rows, rows? (splitLines (ofProgram borrowedProgram).code.toList) = some rows ∧
        namesIn rows = namesIn firstRows ++ ["_sys_", "_c_div", "main", "_sys_"] ++
          ["__name__", "_sys", "exit", "main"]) ∧
      ∀ origin ∈ Origin.ofProgram borrowedProgram, normalName origin.name ∈ reliedOn →
        origin = .division := by
  have hread : Program.ofText borrowed = .ok borrowedProgram :=
    ofText_eq_ok_of_toOption (by decide +kernel)
  obtain ⟨-, -, -, -, htext, hnormal⟩ := origins_of_ofText hread
  obtain ⟨rows, hrows, hnames⟩ := htext (by decide +kernel)
  exact ⟨hread, ⟨rows, hrows, hnames.trans (by decide +kernel)⟩, hnormal (by decide +kernel)⟩

/-- A text in which a function has a name that is not in normal form. -/
def disguised : String := "int __ｎame__() \x7b return 0; \x7d int main() \x7b return 7; \x7d"

/-- The program in that text. -/
def disguisedProgram : Program :=
  ⟨[⟨"__ｎame__", [.returns (some (.number 0))]⟩, ⟨"main", [.returns (some (.number 7))]⟩]⟩

theorem nameOf_disguised : nameOf "__ｎame__" = "__ｎame__" :=
  nameOf_of_not_isTaken (by decide +kernel)

/-- The letter that is not of ASCII is a variant of one that is. -/
theorem normalName_disguised : normalName "__ｎame__" = "__name__" := by
  have hvariant : Unicode.Decomposition.parts? 0xFF4E = some [0x6E] := by
    rw [Unicode.NormalForm.parts?_eq]
    decide +kernel
  have hletter : Unicode.NormalForm.partsOf 'ｎ' = [0x6E] :=
    Unicode.NormalForm.partsOf_of_variant (by decide +kernel) hvariant (by decide +kernel)
      (Unicode.NormalForm.parts?_of_lt (by decide))
  have hparts : "__ｎame__".toList.flatMap Unicode.NormalForm.partsOf =
      "__name__".toList.map Char.toNat := by
    have hascii : ∀ c ∈ ['_', 'a', 'm', 'e'], Unicode.NormalForm.partsOf c = [c.toNat] :=
      fun c hc => Unicode.NormalForm.partsOf_of_isAscii
        (List.all_eq_true.1 (by decide : ['_', 'a', 'm', 'e'].all Unicode.NormalForm.isAscii) c hc)
    simp [hletter, hascii]
  have hlow : ∀ part ∈ "__name__".toList.map Char.toNat, part < 0x80 := by simp
  rw [normalName, Unicode.NormalForm.ofText_of_partsOf (hparts ▸ hlow), hparts]
  decide +kernel

/-- The script of that program. -/
def disguisedScript : Script :=
  ⟨[⟨"__ｎame__", [.returns (some (.integer 0))]⟩, ⟨"main", [.returns (some (.integer 7))]⟩],
    some "main"⟩

theorem ofProgram_disguised : ofProgram disguisedProgram = disguisedScript := by
  have hmain : nameOf "main" = "main" := nameOf_of_not_isTaken (by decide +kernel)
  have hstarts : disguisedProgram.hasMain = true := by decide +kernel
  rw [ofProgram, if_pos hstarts]
  simp [disguisedProgram, disguisedScript, Definition.ofFunction, bodyOf, Stmt.ofStmt,
    Expr.ofExpr, nameOf_disguised, hmain]

theorem normal_disguised : disguisedScript.normal =
    ⟨[⟨"__name__", [.returns (some (.integer 0))]⟩, ⟨"main", [.returns (some (.integer 7))]⟩],
      some "main"⟩ := by
  have hmain : normalName "main" = "main" := Unicode.NormalForm.ofText_of_ascii (by decide)
  simp [disguisedScript, normal, Definition.normal, Stmt.normal, Expr.normal,
    normalName_disguised, hmain]

theorem isAccepted_disguised : disguisedScript.isAccepted = true := by
  have hmain : normalName "main" = "main" := Unicode.NormalForm.ofText_of_ascii (by decide)
  have hshape : isName "__ｎame__" = true ∧ isName "main" = true := by decide +kernel
  simp [disguisedScript, isAccepted, Definition.isAccepted, assigned, mentioned, Stmt.assigned?,
    Stmt.expression?, Expr.names, Expr.brackets, normalName_disguised, hmain, hshape, constantName]

/-- An identifier that is written as no name on which scripts rely can be read as one.  The function
of this program takes the place of the name that tells whether the script was started, and its first
function is never entered. -/
theorem origins_of_ofText_disguised :
    Program.ofText disguised = .ok disguisedProgram ∧
      .identifier "__ｎame__" ∈ Origin.ofProgram disguisedProgram ∧
      nameOf "__ｎame__" = "__ｎame__" ∧ isName "__ｎame__" = true ∧
      normalName (nameOf "__ｎame__") = "__name__" ∧ "__name__" ∈ reliedOn ∧
      (ofProgram disguisedProgram).execute = ⟨0, "", ""⟩ := by
  refine ⟨ofText_eq_ok_of_toOption (by decide +kernel), by decide, nameOf_disguised,
    by decide +kernel, by rw [nameOf_disguised, normalName_disguised], by decide, ?_⟩
  rw [ofProgram_disguised, execute, if_pos isAccepted_disguised, normal_disguised]
  decide +kernel

end Script

end TinyC
