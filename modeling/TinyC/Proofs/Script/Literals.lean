import TinyC.Proofs.Script.Lines
import TinyC.Proofs.Script.Words
import TinyC.Proofs.ScriptLanguage.Strings

/-!
# Strings on their way into a script

The literal of a text has no control in it, ends at its last quote and nowhere
before, and is read by the rules of the script's language as that text.  The
script of a text that was read yields the strings that were lexed, in their
order, and besides them only the name that the condition at its end compares.

## Strategy

Every part of a script yields the strings of the part of the program that it
stands for.  Between two strings there is plain text that ends in a separator,
since names, numbers and signs have no quotes in them.
-/

namespace TinyC

open ScriptLanguage Lexical

/-! ## Literals -/

namespace Script

namespace Literal

theorem isControl_of_all {text : List Char}
    (hall : (text.all fun c => !Unicode.isControl c) = true) :
    ∀ c ∈ text, Unicode.isControl c = false := by
  simpa using hall

theorem isControl_escape (c : Char) : ∀ d ∈ escape c, Unicode.isControl d = false := by
  have hdigits : ∀ value < 16, Unicode.isControl (Numeral.digit value) = false := by decide
  unfold escape
  split
  · rename_i hc
    exact isControl_of_all (by obtain rfl | rfl := hc <;> rfl)
  iterate 3
    split
    · exact isControl_of_all rfl
  split
  · rename_i hcontrol
    have hlow := Unicode.toNat_lt_of_isControl hcontrol
    simp only [control, List.forall_mem_cons]
    exact ⟨by decide, by decide, hdigits _ (by omega), hdigits _ (by omega), by simp⟩
  · rename_i hplain
    intro d hd
    obtain rfl := List.mem_singleton.1 hd
    simpa using hplain

theorem isControl_encode (value : List Char) :
    ∀ c ∈ encode value, Unicode.isControl c = false := by
  rw [encode, List.cons_append, List.forall_mem_cons, List.forall_mem_append]
  refine ⟨by decide, fun c hc => ?_, isControl_of_all rfl⟩
  obtain ⟨escaped, -, hc⟩ := List.mem_flatMap.1 hc
  exact isControl_escape escaped c hc

/-- No escape has a quote in it that could end the literal. -/
theorem closingQuote?_escape (c : Char) (rest : List Char) :
    closingQuote? (escape c ++ rest) = (closingQuote? rest).map (· + (escape c).length) := by
  have hone : ∀ c, c ≠ '"' → c ≠ '\\' →
      closingQuote? (c :: rest) = (closingQuote? rest).map (· + 1) := by
    intro c hquote hbackslash
    rw [closingQuote?]
    · exact hquote
    · rintro letter after rfl
      exact absurd rfl hbackslash
  have hdigits : ∀ value < 16, Numeral.digit value ≠ '"' ∧ Numeral.digit value ≠ '\\' := by decide
  unfold escape
  split
  · rfl
  rename_i hplain
  iterate 3
    split
    · rfl
  split
  · rename_i hcontrol
    -- A backslash takes the letter after it; the two digits stand for themselves.
    have hlow := Unicode.toNat_lt_of_isControl hcontrol
    obtain ⟨hhigh, hhigh'⟩ := hdigits (c.toNat / 16) (by omega)
    obtain ⟨hdigit, hdigit'⟩ := hdigits (c.toNat % 16) (by omega)
    have hlast := hone _ hdigit hdigit'
    have htwo : closingQuote? (Numeral.digit (c.toNat / 16) :: Numeral.digit (c.toNat % 16) ::
        rest) = (closingQuote? rest).map (· + 2) := by
      rw [closingQuote?, hlast, Option.map_map]
      · rfl
      · exact hhigh
      · rintro letter after heq
        exact absurd heq hhigh'
    simp only [control, List.cons_append, List.nil_append]
    rw [closingQuote?, htwo, Option.map_map]
    rfl
  · rw [not_or] at hplain
    exact hone c hplain.2 hplain.1

theorem closingQuote?_flatMap_escape (value rest : List Char) :
    closingQuote? (value.flatMap escape ++ '"' :: rest) = some (value.flatMap escape).length := by
  induction value with
  | nil => rfl
  | cons c value ih =>
      rw [List.flatMap_cons, List.append_assoc, closingQuote?_escape, ih, Option.map_some,
        List.length_append, Nat.add_comm]

end Literal

/-! ## Plain text -/

theorem isPlain_of_forall {property : Char → Bool} {text : List Char}
    (htext : ∀ c ∈ text, property c = true) (hnone : opening.any property = false) :
    IsPlain text :=
  fun c hc hopening => List.any_eq_false.1 hnone c hopening (htext c hc)

theorem isPlain_name {name : String} (hname : IsName name) : IsPlain name.toList := by
  cases htext : name.toList with
  | nil => exact absurd hname.starts (by simp [htext])
  | cons first others =>
      have hfirst := continuesIdentifier_of_starts (by simpa [htext] using hname.starts)
      have hothers : ∀ c ∈ others, Token.continuesIdentifier c = true := by
        simpa [htext] using hname.continues
      exact isPlain_of_forall (List.forall_mem_cons.2 ⟨hfirst, hothers⟩) (by decide)

theorem isPlain_nameOf {name : String} (hname : IsName name) : IsPlain (nameOf name).toList := by
  rw [nameOf]
  split
  · rw [String.toList_append]
    exact (isPlain_name hname).append (by decide)
  · exact isPlain_name hname

theorem isPlain_ofInt (value : Int) : IsPlain (Numeral.ofInt value).toList := by
  have hchars : ∀ c ∈ (Numeral.ofInt value).toList,
      (fun c : Char => c = '-' || c.isDigit) c = true := by
    intro c hc
    simpa using Numeral.eq_or_isDigit_of_mem_ofInt hc
  exact isPlain_of_forall hchars (by decide)

/-! ## Expressions -/

theorem yields_encode (value : String) {c : Char} (hc : IsSeparator c) :
    Yields (Literal.encode value.toList ++ [c]) [value] := by
  have hquote : c ≠ '"' := by
    rintro rfl
    exact absurd hc (by decide)
  refine yields_of_textAt? hc fun rest => ?_
  have hhead : (c :: rest).head? ≠ some '"' := by simpa using hquote
  simpa [Literal.encode] using textAt?_encode value.toList hhead

mutual

theorem yields_code (expression : TinyC.Expr) (hnames : ∀ name ∈ expression.names, IsName name)
    {c : Char} (hc : IsSeparator c) :
    Yields ((Expr.ofExpr expression).code.toList ++ [c]) (expression.lexemes .string) := by
  cases expression with
  | number value => exact yields_plain (isPlain_ofInt value.toInt) hc
  | name identifier =>
      exact yields_plain (isPlain_nameOf (hnames identifier (by simp [TinyC.Expr.names]))) hc
  | string value =>
      rw [Expr.ofExpr, Expr.code, String.toList_ofList]
      exact yields_encode value hc
  | binary operator left right =>
      rw [TinyC.Expr.names, List.forall_mem_append] at hnames
      rw [Expr.ofExpr]
      cases Operator.ofOperator? operator with
      | none =>
          have hopening : Yields (divisionName.toList ++ ['(']) [] :=
            yields_plain (by decide) (by decide)
          have hleft := yields_code left hnames.1 (c := ',') (by decide)
          have hblank : Yields [' '] [] := yields_separator (by decide)
          have hright := yields_code right hnames.2 (c := ')') (by decide)
          have hend : Yields [c] [] := yields_separator hc
          simpa [Expr.code, Expr.codes, String.intercalate_cons_cons, TinyC.Expr.lexemes] using
            hopening.append (hleft.append (hblank.append (hright.append hend)))
      | some operator =>
          have hopening : Yields ['('] [] := yields_separator (by decide)
          have hleft := yields_code left hnames.1 (c := ' ') (by decide)
          have hsign : Yields (operator.sign.toList ++ [' ']) [] := by
            cases operator <;> exact yields_plain (by decide) (by decide)
          have hright := yields_code right hnames.2 (c := ')') (by decide)
          have hend : Yields [c] [] := yields_separator hc
          simpa [Expr.code, TinyC.Expr.lexemes] using
            hopening.append (hleft.append (hsign.append (hright.append hend)))
  | call function arguments =>
      rw [TinyC.Expr.names, List.forall_mem_cons] at hnames
      have hopening := yields_plain (isPlain_nameOf hnames.1) (c := '(') (by decide)
      have harguments := yields_codes arguments hnames.2
      have hend : Yields [c] [] := yields_separator hc
      simpa [Expr.ofExpr, Expr.code, TinyC.Expr.lexemes] using
        hopening.append (harguments.append hend)

theorem yields_codes (expressions : List TinyC.Expr)
    (hnames : ∀ name ∈ TinyC.Expr.namesOfAll expressions, IsName name) :
    Yields ((", ".intercalate (Expr.codes (Expr.ofExprs expressions))).toList ++ [')'])
      (TinyC.Expr.lexemesOfAll .string expressions) := by
  cases expressions with
  | nil => exact yields_plain (by decide) (by decide)
  | cons first rest =>
      rw [TinyC.Expr.namesOfAll, List.forall_mem_append] at hnames
      cases rest with
      | nil =>
          simpa [Expr.ofExprs, Expr.codes, TinyC.Expr.lexemesOfAll] using
            yields_code first hnames.1 (c := ')') (by decide)
      | cons second others =>
          have hfirst := yields_code first hnames.1 (c := ',') (by decide)
          have hblank : Yields [' '] [] := yields_separator (by decide)
          have hothers := yields_codes (second :: others) hnames.2
          simpa [Expr.ofExprs, Expr.codes, String.intercalate_cons_cons,
            TinyC.Expr.lexemesOfAll] using hfirst.append (hblank.append hothers)

end

/-! ## Lines -/

/-- A line that has no quotes in it yields nothing. -/
theorem yields_plainLine {line : String} (hline : IsPlain line.toList) :
    Yields (line ++ "\n").toList [] := by
  rw [String.toList_append]
  exact yields_plain hline (by decide)

theorem yields_line (statement : TinyC.Stmt) (hnames : ∀ name ∈ statement.names, IsName name) :
    Yields ((Stmt.ofStmt statement).line.toList ++ ['\n']) (statement.lexemes .string) := by
  cases statement with
  | declare name init =>
      rw [TinyC.Stmt.names, List.forall_mem_cons] at hnames
      have hname : Yields ((nameOf name).toList ++ [' ', '='] ++ [' ']) [] :=
        yields_plain ((isPlain_nameOf hnames.1).append (by decide)) (by decide)
      have hvalue : Yields (((init.map Expr.ofExpr).getD (.integer 0)).code.toList ++ ['\n'])
          (init.toList.flatMap (TinyC.Expr.lexemes .string)) := by
        cases init with
        | none => exact yields_plain (isPlain_ofInt 0) (by decide)
        | some init =>
            simpa using yields_code init (by simpa using hnames.2) (c := '\n') (by decide)
      simpa [Stmt.ofStmt, Stmt.line, TinyC.Stmt.lexemes] using hname.append hvalue
  | assign name value =>
      rw [TinyC.Stmt.names, List.forall_mem_cons] at hnames
      have hname : Yields ((nameOf name).toList ++ [' ', '='] ++ [' ']) [] :=
        yields_plain ((isPlain_nameOf hnames.1).append (by decide)) (by decide)
      have hvalue := yields_code value hnames.2 (c := '\n') (by decide)
      simpa [Stmt.ofStmt, Stmt.line, TinyC.Stmt.lexemes] using hname.append hvalue
  | returns value =>
      cases value with
      | none => exact yields_plain (by decide) (by decide)
      | some value =>
          have hword : Yields ("return".toList ++ [' ']) [] :=
            yields_plain (by decide) (by decide)
          have hvalue := yields_code value (by simpa [TinyC.Stmt.names] using hnames) (c := '\n')
            (by decide)
          simpa [Stmt.ofStmt, Stmt.line, TinyC.Stmt.lexemes] using hword.append hvalue
  | evaluate expression => exact yields_code expression hnames (by decide)

theorem yields_bodyLines {body : List TinyC.Stmt}
    (hnames : ∀ name ∈ body.flatMap TinyC.Stmt.names, IsName name) :
    Yields ((bodyLines body).flatMap fun line => (line ++ "\n").toList)
      (body.flatMap (TinyC.Stmt.lexemes .string)) := by
  rw [bodyLines]
  split
  · rename_i hbody
    subst hbody
    have hpass : Yields ("    pass" ++ "\n").toList [] := yields_plainLine (by decide)
    simpa using hpass
  · rw [List.flatMap_map]
    refine Yields.flatMap fun statement hstatement => ?_
    have hindent : Yields ("   ".toList ++ [' ']) [] := yields_plain (by decide) (by decide)
    have hline := yields_line statement fun name hname =>
      hnames name (List.mem_flatMap.2 ⟨statement, hstatement, hname⟩)
    simpa using hindent.append hline

theorem yields_blockLines {function : Function}
    (hnames : ∀ name ∈ function.names, IsName name) :
    Yields ((blockLines function).flatMap fun line => (line ++ "\n").toList)
      (function.lexemes .string) := by
  rw [Function.names, List.forall_mem_cons] at hnames
  have hempty : Yields ("" ++ "\n").toList [] := yields_plainLine (by decide)
  have hhead : Yields ("def " ++ nameOf function.name ++ "():" ++ "\n").toList [] := by
    refine yields_plainLine ?_
    rw [String.toList_append, String.toList_append]
    exact (IsPlain.append (by decide) (isPlain_nameOf hnames.1)).append (by decide)
  simpa [blockLines, Function.lexemes] using
    hempty.append (hempty.append (hhead.append (yields_bodyLines hnames.2)))

/-- The lines at the end compare the name of the module with the only string that no word of the
program stands for. -/
theorem yields_startLines (program : Program) :
    Yields ((startLines program).flatMap fun line => (line ++ "\n").toList)
      (if program.hasMain then ["__main__"] else []) := by
  rw [startLines]
  simp only [hasMain_iff]
  split
  · have hcondition : Yields ("\n\nif __name__ ==".toList ++ [' ']) [] :=
      yields_plain (by decide) (by decide)
    have hmain := yields_encode "__main__" (c := ':') (by decide)
    have hcall : Yields ("\n    _sys.exit(main())".toList ++ ['\n']) [] :=
      yields_plain (by decide) (by decide)
    exact hcondition.append (hmain.append hcall)
  · exact yields_nil

/-! ## Scripts -/

theorem isPlain_of_mem_firstLines : ∀ line ∈ firstLines, IsPlain line.toList := by
  decide +kernel

/-- A script yields the strings of its program. -/
theorem yields_ofProgram {program : Program} (hnames : ∀ name ∈ program.names, IsName name) :
    Yields (ofProgram program).code.toList
      (program.lexemes .string ++ if program.hasMain then ["__main__"] else []) := by
  have hfirst : Yields (firstLines.flatMap fun line => (line ++ "\n").toList) [] := by
    rw [← List.flatMap_eq_nil_iff.2 fun line (_ : line ∈ firstLines) => rfl]
    exact Yields.flatMap fun line hline => yields_plainLine (isPlain_of_mem_firstLines line hline)
  have hblocks : Yields ((program.functions.flatMap blockLines).flatMap
      fun line => (line ++ "\n").toList) (program.lexemes .string) := by
    rw [List.flatMap_assoc]
    exact Yields.flatMap fun function hfunction => yields_blockLines fun name hname =>
      hnames name (List.mem_flatMap.2 ⟨function, hfunction, hname⟩)
  rw [code, String.toList_join, List.flatMap_map, lines_ofProgram, List.flatMap_append,
    List.flatMap_append]
  simpa using (hfirst.append hblocks).append (yields_startLines program)

/-- The words that have lexemes of a kind are before the end of input. -/
theorem lexemes_words {source : String} {tokens : List Token} {kind : Token.Kind}
    (hlex : Token.lex source = .ok tokens) (hkind : kind ≠ .endOfInput) :
    Grammar.lexemes kind (Syntax.words tokens) = Grammar.lexemes kind tokens := by
  obtain ⟨pieces, found, hsplitting, rfl⟩ := exists_isSplitting hlex
  rw [Grammar.words_append hsplitting.splits.ne_endOfInput rfl, Grammar.lexemes_append,
    Grammar.lexemes_cons, if_neg (by simpa [Token.endAt] using hkind.symm)]
  simp

/-- The literal of every text has no control in it and no closing quote before its last character,
and stands for that text.  The script of a text that was read has a literal for each string among
its words, which stands for what was lexed, and besides these only the one in its condition. -/
theorem literals_denote :
    (∀ value : String,
      (∀ c ∈ Literal.encode value.toList, Unicode.isControl c = false) ∧
      (∃ escaped, Literal.encode value.toList = '"' :: (escaped ++ ['"']) ∧
        closingQuote? (escaped ++ ['"']) = some escaped.length) ∧
      textAt? (Literal.encode value.toList) = some (.text value, [])) ∧
    ∀ source tokens program, Token.lex source = .ok tokens →
      Program.ofText source = .ok program →
      strings? false (ofProgram program).code.toList =
        some (Grammar.lexemes .string tokens ++ if program.hasMain then ["__main__"] else []) := by
  refine ⟨fun value => ⟨Literal.isControl_encode value.toList, ?_, ?_⟩, ?_⟩
  · exact ⟨_, rfl, Literal.closingQuote?_flatMap_escape value.toList []⟩
  · have hhead : ([] : List Char).head? ≠ some '"' := nofun
    simpa using textAt?_encode value.toList hhead
  · intro source tokens program hlex hread
    have hyields := (yields_ofProgram (isName_of_ofText hread)).strings?
    obtain ⟨found, hfound, hprogram⟩ := exists_tokens_of_ofText hread
    obtain rfl := Except.ok.inj (hlex.symm.trans hfound)
    rwa [lexemes_of_ofTokens (.inr rfl) hprogram, lexemes_words hlex (by decide)] at hyields

/-- A text whose strings have quotes, backslashes, a control before a hexadecimal digit and a
delete in them. -/
def hardToQuote : String :=
  "int main() \x7b f(\"say \\\"no\\\"\\\\\", \"\x01f\"); x = \"\x7f\" + \"\"; \x7d"

/-- The program in that text. -/
def hardProgram : Program :=
  ⟨[⟨"main", [
    .evaluate (.call "f" [.string "say \"no\"\\", .string "\x01f"]),
    .assign "x" (.binary .add (.string "\x7f") (.string ""))]⟩]⟩

theorem literals_denote_hardToQuote :
    Program.ofText hardToQuote = .ok hardProgram ∧
      strings? false (ofProgram hardProgram).code.toList =
        some ["say \"no\"\\", "\x01f", "\x7f", "", "__main__"] := by
  have hread : Program.ofText hardToQuote = .ok hardProgram :=
    ofText_eq_ok_of_toOption (by decide +kernel)
  have hlexemes : (Token.lex hardToQuote).toOption.map (Grammar.lexemes .string) =
      some ["say \"no\"\\", "\x01f", "\x7f", ""] := by
    decide +kernel
  obtain ⟨tokens, htokens, hstrings⟩ := Option.map_eq_some_iff.1 hlexemes
  have hyields := literals_denote.2 hardToQuote tokens hardProgram (eq_ok_of_toOption htokens) hread
  rw [hstrings] at hyields
  exact ⟨hread, hyields⟩

end Script

end TinyC
