import TinyC.Proofs.Numeral
import TinyC.Proofs.ScriptLanguage.Word
import TinyC.Proofs.SourceText.Names

/-!
# The lines of a script

Nothing in a program that was read can end a line of its script, begin another
one or change an indentation: the script has the lines that its structure asks
for, one for each statement, and no more.

## Strategy

The text of every expression fills a line (`FillsLine`): it begins with a
character that is no blank, and no end of a line is in it.  Names are of this
kind because lexing takes no blanks and controls into them, and literals because
every control in them is escaped.
-/

namespace TinyC

open ScriptLanguage Lexical

/-- The text begins where it is put, and stays on its line. -/
structure Script.FillsLine (text : List Char) : Prop where
  head_eq : ∃ first rest, text = first :: rest ∧ isBlank first = false
  isInline : IsInline text

namespace Script

theorem FillsLine.append {first second : List Char} (hfirst : FillsLine first)
    (hsecond : IsInline second) : FillsLine (first ++ second) := by
  obtain ⟨⟨c, rest, rfl, hc⟩, hinline⟩ := hfirst
  exact ⟨⟨c, rest ++ second, rfl, hc⟩, hinline.append hsecond⟩

theorem fillsLine_cons {c : Char} {text : List Char} (hblank : isBlank c = false)
    (hc : endsLine c = false)
    (htext : IsInline text) : FillsLine (c :: text) :=
  ⟨⟨c, text, rfl, hblank⟩, isInline_cons.2 ⟨hc, htext⟩⟩

/-! ## Names -/

/-- What begins with a character that words may have, and goes on with such, fills a line. -/
theorem fillsLine_of_forall {property : Char → Bool} {text : List Char} (hne : text ≠ [])
    (htext : ∀ c ∈ text, property c = true)
    (hnone : [' ', '\t', '\x0c', '\n', '\r', '#'].any property = false) : FillsLine text := by
  cases text with
  | nil => exact absurd rfl hne
  | cons first others =>
      obtain ⟨hblank, -, -⟩ := begins_word_of (htext first List.mem_cons_self) hnone
      exact ⟨⟨first, others, rfl, hblank⟩, fun c hc => (begins_word_of (htext c hc) hnone).2.1⟩

theorem fillsLine_name {name : String} (hname : IsName name) : FillsLine name.toList := by
  cases htext : name.toList with
  | nil => simpa [htext] using hname.starts
  | cons first others =>
      have hfirst := continuesIdentifier_of_starts (by simpa [htext] using hname.starts)
      have hothers : ∀ c ∈ others, Token.continuesIdentifier c = true := by
        simpa [htext] using hname.continues
      exact fillsLine_of_forall (List.cons_ne_nil _ _) (List.forall_mem_cons.2 ⟨hfirst, hothers⟩)
        (by decide)

theorem fillsLine_nameOf {name : String} (hname : IsName name) :
    FillsLine (nameOf name).toList := by
  rw [nameOf]
  split
  · rw [String.toList_append]
    exact (fillsLine_name hname).append (by decide)
  · exact fillsLine_name hname

/-! ## Numbers and literals -/

theorem fillsLine_ofNat (value : Nat) : FillsLine (Numeral.ofNat value).toList := by
  rw [Numeral.ofNat, String.toList_ofList]
  exact fillsLine_of_forall (Numeral.digits_ne_nil 10 value) (Numeral.isDigit_of_mem_digits value)
    (by decide)

theorem fillsLine_ofInt (value : Int) : FillsLine (Numeral.ofInt value).toList := by
  cases value with
  | ofNat value => exact fillsLine_ofNat value
  | negSucc value =>
      rw [Numeral.ofInt, String.toList_append]
      exact fillsLine_cons (by decide) (by decide) (fillsLine_ofNat (value + 1)).isInline

theorem isInline_escape (c : Char) : IsInline (Literal.escape c) := by
  have hdigits : ∀ value < 16, endsLine (Numeral.digit value) = false := by decide
  unfold Literal.escape
  split
  · rename_i hc
    obtain rfl | rfl := hc <;> decide
  split
  · decide
  split
  · decide
  split
  · decide
  rename_i hfeed _ hreturn
  split
  · rename_i hcontrol
    -- A control has two hexadecimal digits, and no digit ends a line.
    have hlow := Unicode.toNat_lt_of_isControl hcontrol
    simp only [Literal.control, isInline_cons]
    exact ⟨by decide, by decide, hdigits _ (by omega), hdigits _ (by omega),
      isInline_nil⟩
  · exact isInline_cons.2 ⟨by simp [endsLine, hfeed, hreturn], isInline_nil⟩

theorem fillsLine_encode (value : List Char) : FillsLine (Literal.encode value) := by
  refine fillsLine_cons (by decide) (by decide) (IsInline.append ?_ (by decide))
  intro c hc
  obtain ⟨escaped, -, hc⟩ := List.mem_flatMap.1 hc
  exact isInline_escape escaped c hc

/-! ## Expressions and statements -/

theorem isInline_intercalate {separator : String} {texts : List String}
    (hseparator : IsInline separator.toList) (htexts : ∀ text ∈ texts, IsInline text.toList) :
    IsInline (separator.intercalate texts).toList := by
  induction texts with
  | nil => simpa using isInline_nil
  | cons first rest ih =>
      obtain ⟨hfirst, hrest⟩ := List.forall_mem_cons.1 htexts
      cases rest with
      | nil => simpa using hfirst
      | cons second others =>
          rw [String.intercalate_cons_cons, String.toList_append, String.toList_append]
          exact (hfirst.append hseparator).append (ih hrest)

mutual

theorem fillsLine_code (expression : TinyC.Expr)
    (hnames : ∀ name ∈ expression.names, IsName name) :
    FillsLine (Expr.ofExpr expression).code.toList := by
  cases expression with
  | number value => exact fillsLine_ofInt value.toInt
  | name identifier => exact fillsLine_nameOf (hnames identifier (by simp [TinyC.Expr.names]))
  | string value =>
      rw [Expr.ofExpr, Expr.code, String.toList_ofList]
      exact fillsLine_encode value.toList
  | binary operator left right =>
      rw [TinyC.Expr.names, List.forall_mem_append] at hnames
      have hleft := (fillsLine_code left hnames.1).isInline
      have hright := (fillsLine_code right hnames.2).isInline
      rw [Expr.ofExpr]
      cases Operator.ofOperator? operator with
      | none =>
          have htexts : IsInline (", ".intercalate
              [(Expr.ofExpr left).code, (Expr.ofExpr right).code]).toList :=
            isInline_intercalate (by decide) (by simp [hleft, hright])
          simp only [Expr.code, Expr.codes, String.toList_append]
          exact ((FillsLine.append ⟨⟨_, _, rfl, by decide⟩, by decide⟩ (by decide)).append
            htexts).append (by decide)
      | some operator =>
          have hsign : IsInline operator.sign.toList := by
            cases operator <;> decide
          simp only [Expr.code, String.toList_append]
          exact ((((FillsLine.append ⟨⟨_, _, rfl, by decide⟩, by decide⟩ hleft).append
            (by decide)).append hsign).append (by decide)).append hright |>.append (by decide)
  | call function arguments =>
      rw [TinyC.Expr.names, List.forall_mem_cons] at hnames
      have harguments := isInline_codes arguments hnames.2
      simp only [Expr.ofExpr, Expr.code, String.toList_append]
      exact (((fillsLine_nameOf hnames.1).append (by decide)).append
        (isInline_intercalate (by decide) harguments)).append (by decide)

theorem isInline_codes (expressions : List TinyC.Expr)
    (hnames : ∀ name ∈ TinyC.Expr.namesOfAll expressions, IsName name) :
    ∀ text ∈ Expr.codes (Expr.ofExprs expressions), IsInline text.toList := by
  cases expressions with
  | nil => simp [Expr.ofExprs, Expr.codes]
  | cons first rest =>
      rw [TinyC.Expr.namesOfAll, List.forall_mem_append] at hnames
      rw [Expr.ofExprs, Expr.codes, List.forall_mem_cons]
      exact ⟨(fillsLine_code first hnames.1).isInline, isInline_codes rest hnames.2⟩

end

theorem fillsLine_line (statement : TinyC.Stmt) (hnames : ∀ name ∈ statement.names, IsName name) :
    FillsLine (Stmt.ofStmt statement).line.toList := by
  cases statement with
  | declare name init =>
      rw [TinyC.Stmt.names, List.forall_mem_cons] at hnames
      have hvalue : IsInline ((init.map Expr.ofExpr).getD (.integer 0)).code.toList := by
        cases init with
        | none => exact (fillsLine_ofInt 0).isInline
        | some init => exact (fillsLine_code init (by simpa using hnames.2)).isInline
      simp only [Stmt.ofStmt, Stmt.line, String.toList_append]
      exact ((fillsLine_nameOf hnames.1).append (by decide)).append hvalue
  | assign name value =>
      rw [TinyC.Stmt.names, List.forall_mem_cons] at hnames
      simp only [Stmt.ofStmt, Stmt.line, String.toList_append]
      exact ((fillsLine_nameOf hnames.1).append (by decide)).append
        (fillsLine_code value hnames.2).isInline
  | returns value =>
      cases value with
      | none => exact ⟨⟨_, _, rfl, by decide⟩, by decide⟩
      | some value =>
          have hvalue := fillsLine_code value (by simpa [TinyC.Stmt.names] using hnames)
          simp only [Stmt.ofStmt, Option.map_some, Stmt.line, String.toList_append]
          exact FillsLine.append ⟨⟨_, _, rfl, by decide⟩, by decide⟩ hvalue.isInline
  | evaluate expression => exact fillsLine_code expression hnames

/-! ## Blocks -/

/-- The line is indented by exactly four blanks. -/
def IsIndented (line : String) : Prop :=
  ∃ first rest, line.toList = [' ', ' ', ' ', ' '] ++ first :: rest ∧
    isBlank first = false

theorem FillsLine.isIndented {line : String} (hline : FillsLine line.toList) :
    IsIndented (indented line) ∧ IsInline (indented line).toList := by
  obtain ⟨first, rest, htext, hfirst⟩ := hline.head_eq
  have hindented : (indented line).toList = [' ', ' ', ' ', ' '] ++ line.toList := by
    simp [indented]
  refine ⟨⟨first, rest, by rw [hindented, htext], hfirst⟩, ?_⟩
  rw [hindented]
  exact IsInline.append (by decide) hline.isInline

/-- The lines of the statements of a body.  An empty body has a line that does nothing. -/
def bodyLines (body : List TinyC.Stmt) : List String :=
  if body = [] then ["    pass"]
  else body.map fun statement => "    " ++ (Stmt.ofStmt statement).line

/-- The lines of a function: two empty ones, its head and those of its statements. -/
def blockLines (function : Function) : List String :=
  ["", "", "def " ++ nameOf function.name ++ "():"] ++ bodyLines function.body

/-- The lines at the end of the script of a program that has a function to start at. -/
def startLines (program : Program) : List String :=
  if ∃ function ∈ program.functions, function.name = "main" then
    ["", "", "if __name__ == \"__main__\":", "    _sys.exit(main())"]
  else []

theorem length_bodyLines (body : List TinyC.Stmt) :
    (bodyLines body).length = max 1 body.length := by
  cases body with
  | nil => rfl
  | cons statement rest => simp [bodyLines]

theorem isIndented_of_mem_bodyLines {body : List TinyC.Stmt}
    (hnames : ∀ name ∈ body.flatMap TinyC.Stmt.names, IsName name) :
    ∀ line ∈ bodyLines body, IsIndented line ∧ IsInline line.toList := by
  rw [bodyLines]
  split
  · intro line hline
    obtain rfl := List.mem_singleton.1 hline
    have hpass : FillsLine "pass".toList := ⟨⟨_, _, rfl, by decide⟩, by decide⟩
    exact hpass.isIndented
  · intro line hline
    obtain ⟨statement, hstatement, rfl⟩ := List.mem_map.1 hline
    exact (fillsLine_line statement fun name hname =>
      hnames name (List.mem_flatMap.2 ⟨statement, hstatement, hname⟩)).isIndented

theorem isInline_of_mem_blockLines {function : Function}
    (hnames : ∀ name ∈ function.names, IsName name) :
    ∀ line ∈ blockLines function, IsInline line.toList := by
  rw [Function.names, List.forall_mem_cons] at hnames
  have hhead : IsInline ("def " ++ nameOf function.name ++ "():").toList := by
    simp only [String.toList_append]
    exact (IsInline.append (by decide) (fillsLine_nameOf hnames.1).isInline).append (by decide)
  have hbody := isIndented_of_mem_bodyLines hnames.2
  simp only [blockLines, List.cons_append, List.nil_append, List.forall_mem_cons]
  exact ⟨by decide, by decide, hhead, fun line hline => (hbody line hline).2⟩

theorem lines_ofFunction (function : Function) :
    (Definition.ofFunction function).lines = blockLines function := by
  obtain ⟨name, body⟩ := function
  cases body with
  | nil => rfl
  | cons statement rest => simp [Definition.ofFunction, Definition.lines, bodyOf, blockLines,
      bodyLines, indented, Function.comp_def]

theorem hasMain_iff (program : Program) :
    program.hasMain = true ↔ ∃ function ∈ program.functions, function.name = "main" := by
  simp [Program.hasMain, Program.defines]

theorem lines_ofProgram (program : Program) :
    (ofProgram program).lines =
      firstLines ++ program.functions.flatMap blockLines ++ startLines program := by
  have hblocks : (program.functions.map Definition.ofFunction).flatMap Definition.lines =
      program.functions.flatMap blockLines := by
    rw [List.flatMap_map]
    exact congrArg (List.flatMap · program.functions) (funext lines_ofFunction)
  rw [lines, ofProgram, startLines, hblocks]
  simp only [← hasMain_iff]
  split
  · rfl
  · rfl

/-- A script whose lines have no ends of lines in them is split into these lines. -/
theorem splitLines_code_of_isInline {script : Script}
    (hlines : ∀ line ∈ script.lines, IsInline line.toList) :
    splitLines script.code.toList = script.lines.map String.toList ++ [[]] := by
  rw [code, String.toList_join, List.flatMap_map]
  simp only [String.toList_append]
  rw [← splitLines_flatMap (List.forall_mem_map.2 hlines), List.flatMap_map]
  rfl

theorem isInline_of_mem_firstLines : ∀ line ∈ firstLines, IsInline line.toList := by
  decide +kernel

/-- No line of the script of a program has an end of a line in it. -/
theorem isInline_of_mem_lines {program : Program} (hnames : ∀ name ∈ program.names, IsName name) :
    ∀ line ∈ (ofProgram program).lines, IsInline line.toList := by
  rw [lines_ofProgram, List.forall_mem_append, List.forall_mem_append]
  refine ⟨⟨isInline_of_mem_firstLines, fun line hline => ?_⟩, ?_⟩
  · obtain ⟨function, hfunction, hline⟩ := List.mem_flatMap.1 hline
    exact isInline_of_mem_blockLines
      (fun name hname => hnames name (List.mem_flatMap.2 ⟨function, hfunction, hname⟩)) line hline
  · rw [startLines]
    split <;> decide

/-- The text of the script of a program that was read splits into the first lines, the lines of
each function in order and those at the end, and a function has one line for each statement, or
one if it has none, all of them indented by exactly four blanks. -/
theorem splitLines_code {source : String} {program : Program}
    (hread : Program.ofText source = .ok program) :
    splitLines (ofProgram program).code.toList =
        (firstLines ++ program.functions.flatMap blockLines ++ startLines program).map
          String.toList ++ [[]] ∧
      ∀ function ∈ program.functions,
        (bodyLines function.body).length = max 1 function.body.length ∧
        ∀ line ∈ bodyLines function.body, IsIndented line := by
  have hnames : ∀ function ∈ program.functions, ∀ name ∈ function.names, IsName name :=
    fun function hfunction name hname =>
      isName_of_ofText hread name (List.mem_flatMap.2 ⟨function, hfunction, hname⟩)
  constructor
  · rw [← lines_ofProgram]
    refine splitLines_code_of_isInline ?_
    rw [lines_ofProgram]
    refine List.forall_mem_append.2
      ⟨List.forall_mem_append.2 ⟨isInline_of_mem_firstLines, ?_⟩, ?_⟩
    · intro line hline
      obtain ⟨function, hfunction, hline⟩ := List.mem_flatMap.1 hline
      exact isInline_of_mem_blockLines (hnames function hfunction) line hline
    · rw [startLines]
      split <;> decide
  · intro function hfunction
    have hbody := (List.forall_mem_cons.1 (hnames function hfunction)).2
    exact ⟨length_bodyLines function.body, fun line hline =>
      (isIndented_of_mem_bodyLines hbody line hline).1⟩

/-- A text with a string that goes on over several lines. -/
def severalLines : String :=
  "int f() \x7b\x7d int main() \x7b printf(\"a\n  b\r\", 7 / 2); return; \x7d"

/-- The program in that text. -/
def oneLineEach : Program :=
  ⟨[⟨"f", []⟩, ⟨"main", [
    .evaluate (.call "printf" [.string "a\n  b\r", .binary .div (.number 7) (.number 2)]),
    .returns none]⟩]⟩

theorem splitLines_code_severalLines :
    Program.ofText severalLines = .ok oneLineEach ∧
      splitLines (ofProgram oneLineEach).code.toList =
        (firstLines ++
          ["", "", "def f():", "    pass",
            "", "", "def main():", "    printf(\"a\\n  b\\r\", _c_div(7, 2))", "    return",
            "", "", "if __name__ == \"__main__\":", "    _sys.exit(main())"]).map
          String.toList ++ [[]] := by
  have hread : Program.ofText severalLines = .ok oneLineEach :=
    ofText_eq_ok_of_toOption (by decide +kernel)
  refine ⟨hread, (splitLines_code hread).1.trans ?_⟩
  decide +kernel

end Script

end TinyC
