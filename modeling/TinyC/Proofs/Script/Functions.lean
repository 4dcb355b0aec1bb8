import TinyC.Proofs.Script.Expressions
import TinyC.Proofs.Script.FirstLines
import TinyC.Proofs.Script.Lines

/-!
# Functions read back

The text of a script with one function is read as the first lines and the
definition of that function, with one statement for each of its statements.  This
holds if the names can be read as names and given values, as all names of ASCII
characters can but one.
-/

namespace TinyC

open ScriptLanguage Lexical

namespace Script

/-! ## Names -/

/-- The identifier has the shape of a name in programs and in scripts. -/
structure IsSpelled (identifier : String) : Prop where
  ofProgram : IsName identifier
  ofScript : isName identifier = true

/-- The identifier has the shape of a name in programs and in scripts, and may be given a value in
scripts. -/
structure IsReadable (identifier : String) : Prop where
  ofProgram : IsName identifier
  ofScript : isName identifier = true
  isBindable : isBindable (nameOf identifier) = true

theorem IsReadable.isSpelled {identifier : String} (hname : IsReadable identifier) :
    IsSpelled identifier := ⟨hname.ofProgram, hname.ofScript⟩

/-- An identifier of ASCII characters that is not the one which scripts cannot give a value. -/
structure IsPlain (identifier : String) : Prop where
  isName : IsName identifier
  isAscii : identifier.toList.all Unicode.NormalForm.isAscii = true
  ne_constant : identifier ≠ constantName

instance (identifier : String) : Decidable (IsPlain identifier) :=
  decidable_of_iff
    (IsName identifier ∧ identifier.toList.all Unicode.NormalForm.isAscii = true ∧
      identifier ≠ constantName)
    ⟨fun ⟨hname, hascii, hne⟩ => ⟨hname, hascii, hne⟩,
      fun ⟨hname, hascii, hne⟩ => ⟨hname, hascii, hne⟩⟩

theorem IsPlain.spelling_eq {identifier : String} (hplain : IsPlain identifier) :
    spelling identifier = nameOf identifier :=
  spelling_of_normal (Unicode.NormalForm.ofText_of_ascii hplain.isAscii)

theorem isXidContinue_of_isAscii {c : Char} (hascii : Unicode.NormalForm.isAscii c = true)
    (hc : Token.continuesIdentifier c = true) : Unicode.isXidContinue c = true := by
  have hlow : c.val < 0x80 := by simpa [Unicode.NormalForm.isAscii] using hascii
  simpa [Token.continuesIdentifier, Unicode.isAlphanumeric, Unicode.isAlphabetic,
    Unicode.isNumeric, Unicode.isXidContinue, Char.isAlphanum, hlow] using hc

theorem isXidStart_of_isAscii {c : Char} (hascii : Unicode.NormalForm.isAscii c = true)
    (hc : Token.startsIdentifier c = true) : c = '_' ∨ Unicode.isXidStart c = true := by
  have hlow : c.val < 0x80 := by simpa [Unicode.NormalForm.isAscii] using hascii
  simpa [Token.startsIdentifier, Unicode.isAlphabetic, Unicode.isXidStart, hlow, or_comm] using hc

theorem IsPlain.isReadable {identifier : String} (hplain : IsPlain identifier) :
    IsReadable identifier := by
  refine ⟨hplain.isName, ?_, ?_⟩
  · have hascii := hplain.isAscii
    have hstarts := hplain.isName.starts
    have hcontinues := hplain.isName.continues
    rw [Script.isName]
    cases htext : identifier.toList with
    | nil => simp [htext] at hstarts
    | cons first others =>
        rw [htext, List.all_cons, Bool.and_eq_true, List.all_eq_true] at hascii
        have hfirst := isXidStart_of_isAscii hascii.1 (by simpa [htext] using hstarts)
        have hothers : ∀ c ∈ others, Unicode.isXidContinue c = true := fun c hc =>
          isXidContinue_of_isAscii (hascii.2 c hc)
            (List.all_eq_true.1 (by simpa [htext] using hcontinues) c hc)
        simpa using ⟨hfirst, hothers⟩
  · have hname : spelling identifier ≠ constantName := by
      rw [hplain.spelling_eq]
      cases htaken : isTaken identifier with
      | true =>
          have hall : ∀ taken ∈ keywords ++ reliedOn, taken ++ "_" ≠ constantName := by
            decide +kernel
          rw [nameOf_of_isTaken htaken]
          exact hall identifier (mem_of_isTaken htaken)
      | false =>
          rw [nameOf_of_not_isTaken htaken]
          exact hplain.ne_constant
    simpa [ScriptLanguage.isBindable, spelling] using hname

/-! ## Words of lines -/

/-- The words of the line of a statement. -/
def Stmt.words : Stmt → List ScriptLanguage.Word
  | .assign name value => .name name :: .sign "=" :: value.words
  | .returns none => [.keyword "return"]
  | .returns (some value) => .keyword "return" :: value.words
  | .evaluate expression => expression.words
  | .pass => [.keyword "pass"]

theorem words?_nameOf {identifier : String} (hname : IsSpelled identifier) {rest : List Char}
    (hrest : IsSeparated rest) :
    words? ((nameOf identifier).toList ++ rest) =
      (words? rest).map (.name (nameOf identifier) :: ·) := by
  rw [words?_row (isRow_nameOf hname.ofProgram) hrest, isName_nameOf, if_pos hname.ofScript]

theorem words?_expression {expression : TinyC.Expr}
    (hnames : ∀ name ∈ expression.names, IsSpelled name) :
    words? (Expr.ofExpr expression).code.toList = some (Expr.ofExpr expression).words := by
  rw [words?_ofExpr fun name hname => (hnames name hname).ofProgram,
    if_pos fun name hname => (hnames name hname).ofScript]

theorem words?_assignment {identifier : String} (hname : IsSpelled identifier)
    {text : List Char} {words : List ScriptLanguage.Word} (htext : words? text = some words) :
    words? ((nameOf identifier).toList ++ ' ' :: '=' :: ' ' :: text) =
      some (.name (nameOf identifier) :: .sign "=" :: words) := by
  have hsign : words? ('=' :: ' ' :: text) = (words? (' ' :: text)).map (.sign "=" :: ·) :=
    words?_of_first? (by decide) (by decide) rfl
  rw [words?_nameOf hname (isSeparated_cons.2 (by decide)), words?_blank, hsign, words?_blank,
    htext]
  rfl

theorem words?_line {statement : TinyC.Stmt}
    (hnames : ∀ name ∈ statement.names, IsSpelled name) :
    words? (Stmt.ofStmt statement).line.toList = some (Stmt.ofStmt statement).words := by
  cases statement with
  | declare name init =>
      rw [TinyC.Stmt.names, List.forall_mem_cons] at hnames
      have hvalue : words? ((init.map Expr.ofExpr).getD (.integer 0)).code.toList =
          some ((init.map Expr.ofExpr).getD (.integer 0)).words := by
        cases init with
        | none => decide +kernel
        | some init => exact words?_expression (by simpa using hnames.2)
      simpa [Stmt.ofStmt, Stmt.line, Script.Stmt.words] using words?_assignment hnames.1 hvalue
  | assign name value =>
      rw [TinyC.Stmt.names, List.forall_mem_cons] at hnames
      simpa [Stmt.ofStmt, Stmt.line, Script.Stmt.words] using
        words?_assignment hnames.1 (words?_expression hnames.2)
  | returns value =>
      cases value with
      | none => decide +kernel
      | some value =>
          have hvalue : words? (Expr.ofExpr value).code.toList = some (Expr.ofExpr value).words :=
            words?_expression (by simpa [TinyC.Stmt.names] using hnames)
          have hkeyword : "return" ∈ reserved := by decide
          have htext := words?_keyword hkeyword (Expr.ofExpr value).code.toList
          rw [hvalue] at htext
          simpa [Stmt.ofStmt, Stmt.line, Script.Stmt.words] using htext
  | evaluate expression => exact words?_expression hnames

theorem words_ofStmt_ne_nil (statement : TinyC.Stmt) : (Stmt.ofStmt statement).words ≠ [] := by
  cases statement with
  | declare _ _ | assign _ _ => exact List.cons_ne_nil _ _
  | returns value => cases value <;> exact List.cons_ne_nil _ _
  | evaluate expression => exact (ReadsLine.evaluate (reads_expression expression)).ne_nil

/-- The words of the head of a definition. -/
def headWords (name : String) : List ScriptLanguage.Word :=
  [.keyword "def", .name name, .sign "(", .sign ")", .sign ":"]

theorem words?_head {identifier : String} (hname : IsSpelled identifier) :
    words? ("def " ++ nameOf identifier ++ "():").toList =
      some (headWords (nameOf identifier)) := by
  have hend : words? ['(', ')', ':'] = some [.sign "(", .sign ")", .sign ":"] := by
    decide +kernel
  have hkeyword : "def" ∈ reserved := by decide
  have htext := words?_keyword hkeyword ((nameOf identifier).toList ++ ['(', ')', ':'])
  rw [words?_nameOf hname (isSeparated_cons.2 (by decide)), hend] at htext
  simpa [headWords] using htext

/-! ## Statements -/

/-- The value that a declaration gives: zero if it says nothing else. -/
def initialTree (spell : String → String) : Option TinyC.Expr → Tree
  | none => .integer 0
  | some init => .ofExpr spell init

/-- The statement that stands for a statement of a program with names spelled in the given way. -/
def statementOf (spell : String → String) : TinyC.Stmt → Statement
  | .declare name init => .assign (spell name) (initialTree spell init)
  | .assign name value => .assign (spell name) (.ofExpr spell value)
  | .returns value => .returns (value.map (Tree.ofExpr spell))
  | .evaluate expression => .evaluate (.ofExpr spell expression)

/-- The statements that stand for a body. -/
def statementsOf (spell : String → String) (body : List TinyC.Stmt) : List Statement :=
  if body.isEmpty then [.pass] else body.map (statementOf spell)

/-- The definition that stands for a function. -/
def definitionOf (spell : String → String) (function : Function) : Statement :=
  .define (spell function.name) [] none (statementsOf spell function.body)

/-- A body has at least one statement. -/
theorem statementsOf_ne_nil (spell : String → String) (body : List TinyC.Stmt) :
    statementsOf spell body ≠ [] := by
  cases body with
  | nil => exact List.cons_ne_nil _ _
  | cons statement body => exact List.cons_ne_nil _ _

theorem readsLine_words {statement : TinyC.Stmt}
    (hnames : ∀ name ∈ statement.names, IsReadable name) :
    ReadsLine (Stmt.ofStmt statement).words (statementOf spelling statement) := by
  cases statement with
  | declare name init =>
      refine .assign (hnames name List.mem_cons_self).isBindable ?_
      cases init with
      | none => exact Reads.expression_of_factor (Reads.factor_of_atom .integer)
      | some init => exact reads_expression init
  | assign name value =>
      exact .assign (hnames name List.mem_cons_self).isBindable (reads_expression value)
  | returns value =>
      cases value with
      | none => exact .returns
      | some value => exact .returnsValue (reads_expression value)
  | evaluate expression => exact .evaluate (reads_expression expression)

/-! ## Rows -/

/-- The row of a statement in a body. -/
def bodyRow (statement : Stmt) : ScriptLanguage.Row := ⟨4, statement.words⟩

theorem row?_indented {text : String} {words : List ScriptLanguage.Word}
    (htext : words? text.toList = some words) (hwords : words ≠ [])
    (hfills : FillsLine text.toList) : row? (indented text).toList = some [⟨4, words⟩] := by
  obtain ⟨first, rest, hcons, hfirst⟩ := hfills.head_eq
  have hrow := row?_of_words? 4 htext hwords (by simpa [hcons] using hfirst)
  simpa [indented] using hrow

theorem row?_line {statement : TinyC.Stmt} (hnames : ∀ name ∈ statement.names, IsSpelled name) :
    row? (indented (Stmt.ofStmt statement).line).toList =
      some [bodyRow (Stmt.ofStmt statement)] :=
  row?_indented (words?_line hnames) (words_ofStmt_ne_nil statement)
    (fillsLine_line statement fun name hname => (hnames name hname).ofProgram)

theorem rows?_statements {body : List TinyC.Stmt}
    (hnames : ∀ name ∈ body.flatMap TinyC.Stmt.names, IsSpelled name) :
    rows? (((body.map Stmt.ofStmt).map fun statement => indented statement.line).map
      String.toList) = some ((body.map Stmt.ofStmt).map bodyRow) := by
  induction body with
  | nil => rfl
  | cons statement body ih =>
      rw [List.flatMap_cons, List.forall_mem_append] at hnames
      simp only [List.map_cons, rows?, row?_line hnames.1, ih hnames.2]
      rfl

theorem rows?_body {body : List TinyC.Stmt}
    (hnames : ∀ name ∈ body.flatMap TinyC.Stmt.names, IsSpelled name) :
    rows? (((bodyOf body).map fun statement => indented statement.line).map String.toList) =
      some ((bodyOf body).map bodyRow) := by
  rw [bodyOf]
  split
  · decide +kernel
  · exact rows?_statements hnames

theorem readsBlock_statements {body : List TinyC.Stmt}
    (hnames : ∀ name ∈ body.flatMap TinyC.Stmt.names, IsReadable name) :
    ReadsBlock 4 ((body.map Stmt.ofStmt).map bodyRow) (body.map (statementOf spelling)) [] := by
  induction body with
  | nil => exact .nil
  | cons statement body ih =>
      rw [List.flatMap_cons, List.forall_mem_append] at hnames
      exact .line (readsLine_words hnames.1) (ih hnames.2)

theorem readsBlock_body {body : List TinyC.Stmt}
    (hnames : ∀ name ∈ body.flatMap TinyC.Stmt.names, IsReadable name) :
    ReadsBlock 4 ((bodyOf body).map bodyRow) (statementsOf spelling body) [] := by
  rw [bodyOf, statementsOf]
  split
  · exact .line .pass .nil
  · exact readsBlock_statements hnames

/-! ## The module of a function -/

/-- The script that has one function and does not start it. -/
def ofFunction (function : Function) : Script := ⟨[Definition.ofFunction function], none⟩

theorem isInline_ofFunction {function : Function}
    (hnames : ∀ name ∈ function.names, IsReadable name) :
    ∀ line ∈ (ofFunction function).lines, IsInline line.toList := by
  have hblock : ∀ line ∈ blockLines function, IsInline line.toList :=
    isInline_of_mem_blockLines fun name hname => (hnames name hname).ofProgram
  rw [← lines_ofFunction] at hblock
  simpa [ofFunction, lines] using List.forall_mem_append.2 ⟨isInline_of_mem_firstLines, hblock⟩

theorem row?_head {identifier : String} (hname : IsSpelled identifier) :
    row? ("def " ++ nameOf identifier ++ "():").toList =
      some [⟨0, headWords (nameOf identifier)⟩] := by
  have hrow := row?_of_words? 0 (words?_head hname) (by simp [headWords]) (by
    rw [String.append_assoc, String.toList_append]
    rintro _ ⟨⟩
    decide)
  simpa using hrow

/-- The rows of the definition of a function. -/
def definitionRows (function : Function) : List ScriptLanguage.Row :=
  ⟨0, headWords (nameOf function.name)⟩ :: (bodyOf function.body).map bodyRow

theorem row?_nil : row? [] = some [] := by simp [row?]

theorem rows?_definition {function : Function} (hnames : ∀ name ∈ function.names, IsSpelled name) :
    rows? ((Definition.ofFunction function).lines.map String.toList) =
      some (definitionRows function) := by
  rw [Function.names, List.forall_mem_cons] at hnames
  have hhead : rows? [[], [], ("def " ++ nameOf function.name ++ "():").toList] =
      some [⟨0, headWords (nameOf function.name)⟩] := by
    rw [rows?, rows?, rows?, rows?, row?_nil, row?_head hnames.1]
    rfl
  rw [Definition.lines, List.map_append]
  exact rows?_append hhead (rows?_body hnames.2)

theorem rows?_end : rows? [[]] = some [] := by
  rw [rows?, rows?, row?_nil]
  rfl

theorem rows?_ofFunction {function : Function}
    (hnames : ∀ name ∈ function.names, IsReadable name) :
    rows? (splitLines (ofFunction function).code.toList) =
      some (firstRows ++ definitionRows function) := by
  have hlines : (ofFunction function).lines.map String.toList ++ [[]] =
      firstLines.map String.toList ++
        ((Definition.ofFunction function).lines.map String.toList ++ [[]]) := by
    simp [ofFunction, lines]
  have hdefinition := rows?_definition fun name hname => (hnames name hname).isSpelled
  rw [splitLines_code_of_isInline (isInline_ofFunction hnames), hlines]
  have hrows := rows?_append rows?_firstLines (rows?_append hdefinition rows?_end)
  rwa [List.append_nil] at hrows

theorem isModule_ofFunction {function : Function}
    (hnames : ∀ name ∈ function.names, IsReadable name) :
    IsModule (ofFunction function).code (firstStatements ++ [definitionOf spelling function]) := by
  refine ⟨_, rows?_ofFunction hnames, readsBlock_firstRows ?_ ?_⟩
  · rintro _ ⟨⟩
    exact Nat.le_refl 0
  · rw [Function.names, List.forall_mem_cons] at hnames
    exact .define hnames.1.isBindable rfl (by decide) (by decide) (statementsOf_ne_nil _ _)
      (readsBlock_body hnames.2) (by simp) .nil

end Script

end TinyC
