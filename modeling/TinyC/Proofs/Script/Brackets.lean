import TinyC.Proofs.Script.Expressions
import TinyC.Proofs.Script.Lines
import TinyC.Proofs.ScriptLanguage.Brackets
import TinyC.Proofs.SourceText.RoundTrip

/-!
# Brackets in scripts

Every bracket in a script is closed on its line.  In the line of a statement as
many are open at once as operations and calls stand in each other, since each of
them is written in brackets of its own, whether the program had some or not.

The height of an expression, which reading limits, counts the leaf that is
deepest too, so a script can have one bracket less open than its program is
high.  This is more than the script's language allows: the limit for reading
programs is the higher one.
-/

namespace TinyC

open ScriptLanguage Lexical

namespace Script

/-! ## Names, numbers and literals -/

/-- What names and numbers consist of is no bracket and begins no string. -/
theorem isFlat_of_forall {property : Char → Bool} {text : List Char}
    (htext : ∀ c ∈ text, property c = true)
    (hnone : (opening ++ ['(', '[', '\x7b'] ++ closings).any property = false) : IsFlat text := by
  intro c hc
  have hne : c ∉ opening ++ ['(', '[', '\x7b'] ++ closings := fun hmem =>
    List.any_eq_false.1 hnone c hmem (htext c hc)
  simp only [List.mem_append, not_or] at hne
  obtain ⟨⟨hopening, hopens⟩, hcloses⟩ := hne
  refine ⟨hopening, ?_, hcloses⟩
  unfold closing?
  split <;> first | rfl | exact absurd (by decide) hopens

theorem nests_row {text : String} (htext : IsRow text) : Nests text.toList 0 := by
  obtain ⟨first, others, hcons, hfirst, hothers⟩ := htext.exists_cons
  rw [hcons]
  exact nests_flat (isFlat_of_forall
    (List.forall_mem_cons.2 ⟨by simp [continuesName, hfirst], hothers⟩) (by decide))

theorem nests_ofInt (value : Int) : Nests (Numeral.ofInt value).toList 0 := by
  have hchars : ∀ c ∈ (Numeral.ofInt value).toList,
      (fun c : Char => c = '-' || c.isDigit) c = true := by
    intro c hc
    simpa using Numeral.eq_or_isDigit_of_mem_ofInt hc
  exact nests_flat (isFlat_of_forall hchars (by decide))

theorem nests_encode (value : List Char) : Nests (Literal.encode value) 0 := by
  have htext : ∀ rest, IsParted rest →
      textAt? ('"' :: ((value.flatMap Literal.escape ++ ['"']) ++ rest)) =
        some (.text (String.ofList value), rest) := by
    intro rest hrest
    have hquote : rest.head? ≠ some '"' := fun hhead => absurd (hrest '"' hhead) (by decide)
    simpa [Literal.encode] using textAt?_encode value hquote
  exact nests_of_textAt? htext

/-! ## Expressions -/

mutual

/-- The text of an expression has the brackets that are counted on its tree. -/
theorem nests_code (expression : Expr) (hnames : ∀ name ∈ expression.names, IsRow name) :
    Nests expression.code.toList expression.brackets := by
  cases expression with
  | integer value => exact nests_ofInt value
  | name identifier => exact nests_row (hnames identifier (by simp [Expr.names]))
  | text value =>
      rw [Expr.code, String.toList_ofList]
      exact nests_encode value.toList
  | arithmetic operator left right =>
      rw [Expr.names, List.forall_mem_append] at hnames
      have hleft := nests_code left hnames.1
      have hright := nests_code right hnames.2
      have hsign : Nests operator.sign.toList 0 := by
        cases operator <;> exact nests_flat (by decide)
      have hoperands := hleft.append_cons (c := ' ') (by decide) (by decide)
        (hsign.append_cons (c := ' ') (by decide) (by decide) hright)
      simpa [Expr.code, Expr.brackets] using nests_nil.enclosed hoperands
  | call function arguments =>
      rw [Expr.names, List.forall_mem_cons] at hnames
      have harguments := nests_codes arguments hnames.2
      simpa [Expr.code, Expr.brackets] using (nests_row hnames.1).enclosed harguments

theorem nests_codes (expressions : List Expr)
    (hnames : ∀ name ∈ Expr.namesOfAll expressions, IsRow name) :
    Nests (", ".intercalate (Expr.codes expressions)).toList
      (Expr.greatestBrackets expressions) := by
  cases expressions with
  | nil => exact nests_nil
  | cons first rest =>
      rw [Expr.namesOfAll, List.forall_mem_append] at hnames
      have hfirst := nests_code first hnames.1
      cases rest with
      | nil => simpa [Expr.codes, Expr.greatestBrackets] using hfirst
      | cons second others =>
          have hothers := nests_codes (second :: others) hnames.2
          have hboth := hfirst.append_cons (c := ',') (by decide) (by decide)
            (nests_nil.append_cons (c := ' ') (by decide) (by decide) hothers)
          simpa [Expr.codes, Expr.greatestBrackets, String.intercalate_cons_cons] using hboth

end

mutual

/-- An expression is as high as its brackets are deep, or one higher. -/
theorem brackets_ofExpr (expression : TinyC.Expr) :
    (Expr.ofExpr expression).brackets ≤ expression.height ∧
      expression.height ≤ (Expr.ofExpr expression).brackets + 1 := by
  cases expression with
  | number value => exact ⟨Nat.zero_le 1, Nat.le_refl 1⟩
  | name identifier => exact ⟨Nat.zero_le 1, Nat.le_refl 1⟩
  | string value => exact ⟨Nat.zero_le 1, Nat.le_refl 1⟩
  | binary operator left right =>
      have hleft := brackets_ofExpr left
      have hright := brackets_ofExpr right
      have hbrackets : (Expr.ofExpr (.binary operator left right)).brackets =
          max (Expr.ofExpr left).brackets (Expr.ofExpr right).brackets + 1 := by
        cases operator <;> simp [Expr.ofExpr, Operator.ofOperator?, Expr.brackets,
          Expr.greatestBrackets]
      rw [hbrackets, TinyC.Expr.height]
      omega
  | call function arguments =>
      have harguments := greatestBrackets_ofExprs arguments
      rw [Expr.ofExpr, Expr.brackets, TinyC.Expr.height]
      omega

theorem greatestBrackets_ofExprs (expressions : List TinyC.Expr) :
    Expr.greatestBrackets (Expr.ofExprs expressions) ≤ TinyC.Expr.greatestHeight expressions ∧
      TinyC.Expr.greatestHeight expressions ≤
        Expr.greatestBrackets (Expr.ofExprs expressions) + 1 := by
  cases expressions with
  | nil => exact ⟨Nat.le_refl 0, Nat.zero_le 1⟩
  | cons first rest =>
      have hfirst := brackets_ofExpr first
      have hrest := greatestBrackets_ofExprs rest
      rw [Expr.ofExprs, Expr.greatestBrackets, TinyC.Expr.greatestHeight]
      omega

end

/-! ## Lines -/

/-- The largest number of brackets that are open at once in the line of a statement. -/
def Stmt.brackets (statement : Stmt) : Nat := (statement.expression?.map Expr.brackets).getD 0

theorem nests_assign {name : String} {value : Expr} {count : Nat} (hname : IsRow name)
    (hvalue : Nests value.code.toList count) : Nests (Stmt.assign name value).line.toList count := by
  have hequals : Nests ['='] 0 := nests_flat (by decide)
  have hline := (nests_row hname).append_cons (c := ' ') (by decide) (by decide)
    (hequals.append_cons (c := ' ') (by decide) (by decide) hvalue)
  simpa [Stmt.line] using hline

theorem nests_line (statement : TinyC.Stmt) (hnames : ∀ name ∈ statement.names, IsName name) :
    Nests (Stmt.ofStmt statement).line.toList (Stmt.ofStmt statement).brackets := by
  cases statement with
  | declare name init =>
      rw [TinyC.Stmt.names, List.forall_mem_cons] at hnames
      refine nests_assign (isRow_nameOf hnames.1) ?_
      cases init with
      | none => exact nests_ofInt 0
      | some init => exact nests_code _ (isRow_of_mem_names (by simpa using hnames.2))
  | assign name value =>
      rw [TinyC.Stmt.names, List.forall_mem_cons] at hnames
      exact nests_assign (isRow_nameOf hnames.1) (nests_code _ (isRow_of_mem_names hnames.2))
  | returns value =>
      have hword : Nests "return".toList 0 := nests_flat (by decide)
      cases value with
      | none => exact hword
      | some value =>
          have hvalue := nests_code (Expr.ofExpr value)
            (isRow_of_mem_names (by simpa [TinyC.Stmt.names] using hnames))
          simpa [Stmt.ofStmt, Stmt.line, Stmt.brackets, Stmt.expression?] using
            hword.append_cons (c := ' ') (by decide) (by decide) hvalue
  | evaluate expression => exact nests_code _ (isRow_of_mem_names hnames)

theorem nests_indented {line : String} {count : Nat} (hline : Nests line.toList count) :
    Nests (indented line).toList count := by
  have hblanks : Nests "   ".toList 0 := nests_flat (by decide)
  simpa [indented] using hblanks.append_cons (c := ' ') (by decide) (by decide) hline

/-- The line with which a function begins has one pair of brackets. -/
theorem nests_head {name : String} (hname : IsRow name) :
    Nests ("def " ++ name ++ "():").toList 1 := by
  have hword : Nests "def".toList 0 := nests_flat (by decide)
  have hcall := (nests_row hname).enclosed nests_nil
  have hline := (hword.append_cons (c := ' ') (by decide) (by decide) hcall).append_cons (c := ':')
    (by decide) (by decide) nests_nil
  simpa using hline

/-! ## Scripts -/

/-- Brackets are closed in the line, and at most so many are open at once. -/
def HasBrackets (limit : Nat) (line : List Char) : Prop :=
  ∃ count ≤ limit, brackets? line = some count

variable {limit : Nat}

theorem hasBrackets_iff {line : List Char} {count : Nat} (hline : Nests line count) :
    HasBrackets limit line ↔ count ≤ limit := by
  rw [HasBrackets, hline.brackets?_eq]
  simp

/-- That a line has few brackets can be found out by evaluation. -/
theorem hasBrackets_of_any {line : List Char} (hlimit : 2 ≤ limit)
    (hline : ((brackets? line).any fun count => count ≤ 2) = true) : HasBrackets limit line := by
  obtain ⟨count, hcount, hle⟩ := (Option.any_eq_true _ _).1 hline
  exact ⟨count, Nat.le_trans (by simpa using hle) hlimit, hcount⟩

theorem hasBrackets_of_mem_firstLines (hlimit : 2 ≤ limit) :
    ∀ line ∈ firstLines, HasBrackets limit line.toList := by
  have hlines : ∀ line ∈ firstLines,
      ((brackets? line.toList).any fun count => count ≤ 2) = true := by
    decide +kernel
  exact fun line hline => hasBrackets_of_any hlimit (hlines line hline)

theorem hasBrackets_of_mem_startLines {program : Program} (hlimit : 2 ≤ limit) :
    ∀ line ∈ startLines program, HasBrackets limit line.toList := by
  have hlines : ∀ line ∈ ["", "", "if __name__ == \"__main__\":", "    _sys.exit(main())"],
      ((brackets? line.toList).any fun count => count ≤ 2) = true := by
    decide +kernel
  rw [startLines]
  split
  · exact fun line hline => hasBrackets_of_any hlimit (hlines line hline)
  · simp

theorem brackets_ofStmt_le_iff (statement : TinyC.Stmt) :
    (Stmt.ofStmt statement).brackets ≤ limit ↔
      ∀ expression ∈ statement.expressions, (Expr.ofExpr expression).brackets ≤ limit := by
  cases statement with
  | declare name init => cases init <;> simp [Stmt.ofStmt, Stmt.brackets, Stmt.expression?,
      TinyC.Stmt.expressions, Expr.brackets]
  | assign name value =>
      simp [Stmt.ofStmt, Stmt.brackets, Stmt.expression?, TinyC.Stmt.expressions]
  | returns value => cases value <;> simp [Stmt.ofStmt, Stmt.brackets, Stmt.expression?,
      TinyC.Stmt.expressions]
  | evaluate expression =>
      simp [Stmt.ofStmt, Stmt.brackets, Stmt.expression?, TinyC.Stmt.expressions]

theorem hasBrackets_bodyLines_iff {body : List TinyC.Stmt}
    (hnames : ∀ name ∈ body.flatMap TinyC.Stmt.names, IsName name) :
    (∀ line ∈ bodyLines body, HasBrackets limit line.toList) ↔
      ∀ expression ∈ body.flatMap TinyC.Stmt.expressions,
        (Expr.ofExpr expression).brackets ≤ limit := by
  have hline : ∀ statement ∈ body,
      (HasBrackets limit (indented (Stmt.ofStmt statement).line).toList ↔
        ∀ expression ∈ statement.expressions, (Expr.ofExpr expression).brackets ≤ limit) := by
    intro statement hstatement
    have hnests := nests_indented (nests_line statement fun name hname =>
      hnames name (List.mem_flatMap.2 ⟨statement, hstatement, hname⟩))
    rw [hasBrackets_iff hnests, brackets_ofStmt_le_iff]
  rw [bodyLines, List.forall_mem_flatMap]
  split
  · rename_i hbody
    subst hbody
    have hpass : Nests "    pass".toList 0 := nests_flat (by decide)
    simpa using (hasBrackets_iff hpass).2 (Nat.zero_le limit)
  · rw [List.forall_mem_map]
    exact forall₂_congr hline

theorem hasBrackets_blockLines_iff {function : Function} (hlimit : 2 ≤ limit)
    (hnames : ∀ name ∈ function.names, IsName name) :
    (∀ line ∈ blockLines function, HasBrackets limit line.toList) ↔
      ∀ expression ∈ function.expressions, (Expr.ofExpr expression).brackets ≤ limit := by
  rw [Function.names, List.forall_mem_cons] at hnames
  have hempty : HasBrackets limit "".toList := (hasBrackets_iff nests_nil).2 (Nat.zero_le limit)
  have hhead : HasBrackets limit ("def " ++ nameOf function.name ++ "():").toList :=
    (hasBrackets_iff (nests_head (isRow_nameOf hnames.1))).2 (by omega)
  rw [blockLines, List.forall_mem_append, hasBrackets_bodyLines_iff hnames.2,
    Function.expressions]
  refine and_iff_right (List.forall_mem_cons.2 ⟨hempty, List.forall_mem_cons.2 ⟨hempty, ?_⟩⟩)
  exact List.forall_mem_singleton.2 hhead

/-- The lines of a script are within a limit exactly if the expressions in it are. -/
theorem hasBrackets_lines_iff {program : Program} (hlimit : 2 ≤ limit)
    (hnames : ∀ name ∈ program.names, IsName name) :
    (∀ line ∈ (ofProgram program).lines, HasBrackets limit line.toList) ↔
      ∀ expression ∈ program.expressions, (Expr.ofExpr expression).brackets ≤ limit := by
  have hblocks : ∀ function ∈ program.functions,
      ((∀ line ∈ blockLines function, HasBrackets limit line.toList) ↔
        ∀ expression ∈ function.expressions, (Expr.ofExpr expression).brackets ≤ limit) :=
    fun function hfunction => hasBrackets_blockLines_iff hlimit fun name hname =>
      hnames name (List.mem_flatMap.2 ⟨function, hfunction, hname⟩)
  rw [lines_ofProgram, List.forall_mem_append, List.forall_mem_append,
    and_iff_left (hasBrackets_of_mem_startLines hlimit),
    and_iff_right (hasBrackets_of_mem_firstLines hlimit), Program.expressions,
    List.forall_mem_flatMap, List.forall_mem_flatMap]
  exact forall₂_congr hblocks

/-- The same holds of the lines of the text. -/
theorem hasBrackets_splitLines_iff {program : Program} (hlimit : 2 ≤ limit)
    (hnames : ∀ name ∈ program.names, IsName name) :
    (∀ line ∈ splitLines (ofProgram program).code.toList, HasBrackets limit line) ↔
      ∀ expression ∈ program.expressions, (Expr.ofExpr expression).brackets ≤ limit := by
  have hempty : HasBrackets limit [] := (hasBrackets_iff nests_nil).2 (Nat.zero_le limit)
  rw [splitLines_code_of_isInline (isInline_of_mem_lines hnames), List.forall_mem_append,
    List.forall_mem_singleton, and_iff_left hempty, List.forall_mem_map,
    hasBrackets_lines_iff hlimit hnames]

theorem line_mem_splitLines {program : Program} (hnames : ∀ name ∈ program.names, IsName name)
    {function : Function} (hfunction : function ∈ program.functions) {statement : TinyC.Stmt}
    (hstatement : statement ∈ function.body) :
    (indented (Stmt.ofStmt statement).line).toList ∈
      splitLines (ofProgram program).code.toList := by
  have hbody : indented (Stmt.ofStmt statement).line ∈ bodyLines function.body := by
    rw [bodyLines, if_neg (List.ne_nil_of_mem hstatement)]
    exact List.mem_map.2 ⟨statement, hstatement, rfl⟩
  have hblock : indented (Stmt.ofStmt statement).line ∈ program.functions.flatMap blockLines :=
    List.mem_flatMap.2 ⟨function, hfunction, List.mem_append_right _ hbody⟩
  rw [splitLines_code_of_isInline (isInline_of_mem_lines hnames), lines_ofProgram]
  exact List.mem_append_left _ (List.mem_map_of_mem
    (List.mem_append_left _ (List.mem_append_right _ hblock)))

/-- Which brackets are open at once in the script of a program. -/
structure NestsBrackets (program : Program) : Prop where
  /-- In every line brackets are closed in order, and at most 256 are open at once. -/
  balanced : ∀ line ∈ splitLines (ofProgram program).code.toList, HasBrackets 256 line
  /-- In the line of a statement as many are open as operations and calls stand in each other. -/
  counted : ∀ function ∈ program.functions, ∀ statement ∈ function.body,
    (indented (Stmt.ofStmt statement).line).toList ∈ splitLines (ofProgram program).code.toList ∧
      brackets? (indented (Stmt.ofStmt statement).line).toList =
        some (Stmt.ofStmt statement).brackets
  /-- An expression is as high as its brackets are deep, or one higher. -/
  height : ∀ expression ∈ program.expressions,
    (Expr.ofExpr expression).brackets ≤ expression.height ∧
      expression.height ≤ (Expr.ofExpr expression).brackets + 1
  /-- Only expressions can make lines exceed what the language allows. -/
  allowed : (∀ line ∈ splitLines (ofProgram program).code.toList, HasBrackets bracketLimit line) ↔
    ∀ expression ∈ program.expressions, (Expr.ofExpr expression).brackets ≤ bracketLimit

/-- The script of a program that was read has its brackets closed in every line, with as many open at
once as the expressions of the program ask for. -/
theorem brackets_balanced {source : String} {program : Program}
    (hread : Program.ofText source = .ok program) : NestsBrackets program := by
  have hnames := isName_of_ofText hread
  have hheight := height_le_of_ofText hread
  constructor
  case balanced =>
    refine (hasBrackets_splitLines_iff (by decide) hnames).2 fun expression hexpression => ?_
    exact Nat.le_trans (brackets_ofExpr expression).1 (hheight expression hexpression)
  case counted =>
    intro function hfunction statement hstatement
    have hstatementNames : ∀ name ∈ statement.names, IsName name := fun name hname =>
      hnames name (List.mem_flatMap.2 ⟨function, hfunction,
        List.mem_cons_of_mem _ (List.mem_flatMap.2 ⟨statement, hstatement, hname⟩)⟩)
    exact ⟨line_mem_splitLines hnames hfunction hstatement,
      (nests_indented (nests_line statement hstatementNames)).brackets?_eq⟩
  case height => exact fun expression _ => brackets_ofExpr expression
  case allowed => exact hasBrackets_splitLines_iff (by decide) hnames

/-! ## Concrete programs -/

/-- A text with brackets in a string, and calls and a division in each other. -/
def bracketed : String := "int main() \x7b printf(\"((%d]\", f(g()) / 2); \x7d"

/-- The program in that text. -/
def bracketedProgram : Program :=
  ⟨[⟨"main", [.evaluate (.call "printf" [.string "((%d]",
    .binary .div (.call "f" [.call "g" []]) (.number 2)])]⟩]⟩

/-- The brackets in a string do not count. -/
theorem brackets_balanced_bracketed :
    Program.ofText bracketed = .ok bracketedProgram ∧
      brackets? "    printf(\"((%d]\", _c_div(f(g()), 2))".toList = some 4 := by
  have hread : Program.ofText bracketed = .ok bracketedProgram :=
    ofText_eq_ok_of_toOption (by decide +kernel)
  have hline : indented (Stmt.ofStmt (.evaluate (.call "printf" [.string "((%d]",
      .binary .div (.call "f" [.call "g" []]) (.number 2)]))).line =
      "    printf(\"((%d]\", _c_div(f(g()), 2))" := by
    decide +kernel
  have hcounted :=
    ((brackets_balanced hread).counted _ List.mem_cons_self _ List.mem_cons_self).2
  rw [hline] at hcounted
  exact ⟨hread, hcounted⟩

/-- A row of additions without brackets. -/
def sum : Nat → TinyC.Expr
  | 0 => .number 0
  | count + 1 => .binary .add (sum count) (.number 0)

/-- A program that returns a row of additions. -/
def sumProgram (count : Nat) : Program := ⟨[⟨"main", [.returns (some (sum count))]⟩]⟩

theorem height_sum (count : Nat) : (sum count).height = count + 1 := by
  induction count with
  | zero => rfl
  | succ count ih => simp [sum, TinyC.Expr.height, ih]

theorem brackets_sum (count : Nat) : (Expr.ofExpr (sum count)).brackets = count := by
  induction count with
  | zero => rfl
  | succ count ih => simpa [sum, Expr.ofExpr, Operator.ofOperator?, Expr.brackets] using ih

theorem names_sum (count : Nat) : (sum count).names = [] := by
  induction count with
  | zero => rfl
  | succ count ih => simp [sum, TinyC.Expr.names, ih]

theorem numbers_sum (count : Nat) : ∀ value ∈ (sum count).numbers, value = 0 := by
  induction count with
  | zero => simp [sum, TinyC.Expr.numbers]
  | succ count ih => simpa [sum, TinyC.Expr.numbers, or_imp, forall_and] using ih

/-- As many additions as fit into the limit for reading can stand in a row. -/
theorem ofText_sumProgram {count : Nat} (hcount : count ≤ 255) :
    Program.ofText (sumProgram count).sourceText = .ok (sumProgram count) := by
  have hnames : ∀ name ∈ (sumProgram count).names, IsName name := by
    have hnone : (sumProgram count).names = ["main"] := by
      simp [sumProgram, Program.names, Function.names, TinyC.Stmt.names, names_sum]
    rw [hnone]
    decide
  have hnumbers : ∀ value ∈ (sumProgram count).numbers, 0 ≤ value.toInt := by
    intro value hvalue
    have hzero : value = 0 := numbers_sum count value (by
      simpa [sumProgram, Program.numbers, Program.expressions, Function.expressions,
        TinyC.Stmt.expressions] using hvalue)
    rw [hzero]
    decide
  have hheight : ∀ expression ∈ (sumProgram count).expressions, expression.height ≤ 256 := by
    simp only [sumProgram, Program.expressions, Function.expressions, TinyC.Stmt.expressions,
      List.flatMap_cons, List.flatMap_nil, List.append_nil, Option.toList_some,
      List.forall_mem_singleton, height_sum]
    omega
  exact ofText_line (allReadable_program _ hnames hnumbers) fun tokens hwritten =>
    ⟨hheight, Grammar.exists_formsProgram _ (by decide) ⟨hnumbers, hheight⟩ hwritten⟩

/-- More additions are read in a row than brackets may be open in a line. -/
theorem brackets_of_many_additions :
    Program.ofText (sumProgram 201).sourceText = .ok (sumProgram 201) ∧
      ∃ line ∈ splitLines (ofProgram (sumProgram 201)).code.toList,
        brackets? line = some 201 ∧ ¬ HasBrackets bracketLimit line := by
  have hread : Program.ofText (sumProgram 201).sourceText = .ok (sumProgram 201) :=
    ofText_sumProgram (by decide)
  have hline := nests_indented (nests_line (.returns (some (sum 201))) (by
    simp [TinyC.Stmt.names, names_sum]))
  have hcount : (Stmt.ofStmt (.returns (some (sum 201)))).brackets = 201 := brackets_sum 201
  rw [hcount] at hline
  refine ⟨hread, _, line_mem_splitLines (isName_of_ofText hread) List.mem_cons_self
    List.mem_cons_self, hline.brackets?_eq, ?_⟩
  rw [hasBrackets_iff hline]
  decide

end Script

end TinyC
