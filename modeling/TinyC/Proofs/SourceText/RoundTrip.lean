import TinyC.Proofs.Grammar.Acceptance
import TinyC.Proofs.Lexical.Splitting
import TinyC.Proofs.SourceText.Derivation
import TinyC.Session

/-!
# Source text reads back

The source text of a program is read as that program, if its names are names and
not reserved, its numbers are not negative and its expressions not too high.

## Strategy

Before a blank and at the end of the text every word is what a lexical rule
allows (`Word.IsReadable`), so the words and the blanks between them split the
text.  Such a splitting is the only one, and its tokens form the program.
-/

namespace TinyC

open Grammar Lexical

/-! ## Words that can be read -/

/-- Before a blank or the end of the text, the raw text of the word is a token. -/
def Word.IsReadable (word : Word) : Prop :=
  ∀ rest, (∀ c ∈ rest.head?, c = ' ') → IsRaw word.kind word.lexeme.toList word.raw rest

theorem isReadable_mark {kind : Token.Kind} {lexeme : String} {c : Char}
    (hmark : kind.mark? = some c) (hlexeme : lexeme.toList = [c]) :
    Word.IsReadable ⟨kind, lexeme⟩ := by
  intro rest hrest
  have hkind : kind ≠ .string := by
    rintro rfl
    simp [Token.Kind.mark?] at hmark
  rw [Word.raw_of_ne_string hkind, hlexeme]
  refine .mark hmark fun _ next hnext => ?_
  rw [hrest next hnext]
  decide

/-- A word of letters, which a blank ends. -/
theorem isReadable_word {kind : Token.Kind} {lexeme : String} {first : Char} {others : List Char}
    (hlexeme : lexeme.toList = first :: others) (hfirst : Token.startsIdentifier first = true)
    (hothers : others.all Token.continuesIdentifier = true)
    (hkind : IsWordKind kind (first :: others)) : Word.IsReadable ⟨kind, lexeme⟩ := by
  intro rest hrest
  have hstring : kind ≠ .string := by
    rintro rfl
    cases hkind
  rw [Word.raw_of_ne_string hstring, hlexeme]
  refine .word hfirst (List.all_eq_true.1 hothers) (fun c hc => ?_) hkind
  rw [hrest c hc]
  decide

theorem isReadable_name {name : String} (hname : IsName name) :
    Word.IsReadable ⟨.identifier, name⟩ := by
  obtain ⟨hstarts, hcontinues, hint, hreturn⟩ := hname
  cases hlexeme : name.toList with
  | nil => simp [hlexeme] at hstarts
  | cons first others =>
      rw [hlexeme] at hstarts hcontinues
      refine isReadable_word hlexeme (by simpa using hstarts) hcontinues ?_
      rw [← hlexeme]
      refine .identifier ?_ ?_
      · intro hword
        exact hint (String.toList_inj.1 hword)
      · intro hword
        exact hreturn (String.toList_inj.1 hword)

theorem isReadable_number {value : Int64} (hvalue : 0 ≤ value.toInt) :
    Word.IsReadable ⟨.number, Numeral.ofInt value.toInt⟩ := by
  intro rest hrest
  obtain ⟨size, -, htext⟩ := Numeral.exists_ofInt_eq hvalue
  rw [Word.raw_of_ne_string (by simp), htext]
  refine .number (Numeral.digits_ne_nil 10 size) (Numeral.isDigit_of_mem_digits size) fun c hc => ?_
  rw [hrest c hc]
  decide

theorem denotes_escape (text : List Char) : Denotes (Word.escape text) text := by
  induction text with
  | nil => exact .nil
  | cons c text ih =>
      rw [Word.escape, List.flatMap_cons]
      split
      · rename_i hc
        refine .escaped ?_ ?_ ih
        · rintro rfl
          simp at hc
        · rintro rfl
          simp at hc
      · rename_i hc
        obtain ⟨hbackslash, hquote⟩ := not_or.1 hc
        exact .plain hquote hbackslash ih

theorem isReadable_string (value : String) : Word.IsReadable ⟨.string, value⟩ :=
  fun _ _ => .string (denotes_escape value.toList) .quote

/-! ## Words of a program -/

/-- Every one of the words can be read. -/
def AllReadable (words : List Word) : Prop := ∀ word ∈ words, word.IsReadable

theorem allReadable_nil : AllReadable [] := by
  intro word hword
  simp at hword

theorem AllReadable.cons {word : Word} {words : List Word} (hwords : AllReadable words)
    (hword : word.IsReadable) : AllReadable (word :: words) :=
  List.forall_mem_cons.2 ⟨hword, hwords⟩

theorem AllReadable.append {first second : List Word} (hfirst : AllReadable first)
    (hsecond : AllReadable second) : AllReadable (first ++ second) :=
  List.forall_mem_append.2 ⟨hfirst, hsecond⟩

theorem AllReadable.snoc {words : List Word} {word : Word} (hwords : AllReadable words)
    (hword : word.IsReadable) : AllReadable (words ++ [word]) :=
  hwords.append (allReadable_nil.cons hword)

theorem isReadable_operator (operator : Operator) : operator.word.IsReadable := by
  cases operator <;> exact isReadable_mark rfl rfl

theorem isReadable_leftParen : Word.IsReadable ⟨.leftParen, "("⟩ := isReadable_mark rfl rfl

theorem isReadable_rightParen : Word.IsReadable ⟨.rightParen, ")"⟩ := isReadable_mark rfl rfl

theorem isReadable_leftBrace : Word.IsReadable ⟨.leftBrace, "\x7b"⟩ := isReadable_mark rfl rfl

theorem isReadable_rightBrace : Word.IsReadable ⟨.rightBrace, "\x7d"⟩ := isReadable_mark rfl rfl

theorem isReadable_semicolon : Word.IsReadable ⟨.semicolon, ";"⟩ := isReadable_mark rfl rfl

theorem isReadable_assign : Word.IsReadable ⟨.assign, "="⟩ := isReadable_mark rfl rfl

theorem isReadable_int : Word.IsReadable ⟨.intKeyword, "int"⟩ :=
  isReadable_word rfl rfl rfl .int

theorem isReadable_return : Word.IsReadable ⟨.returnKeyword, "return"⟩ :=
  isReadable_word rfl rfl rfl .return

theorem allReadable_grouped {parens : Bool} {words : List Word} (hwords : AllReadable words) :
    AllReadable (Expr.grouped parens words) := by
  rw [Expr.grouped]
  split
  · exact (hwords.snoc isReadable_rightParen).cons isReadable_leftParen
  · exact hwords

mutual

theorem allReadable_words (tree : Expr) (hnames : ∀ name ∈ tree.names, IsName name)
    (hnumbers : ∀ value ∈ tree.numbers, 0 ≤ value.toInt) : AllReadable tree.words := by
  cases tree with
  | number value =>
      exact allReadable_nil.cons (isReadable_number (hnumbers value (by simp [Expr.numbers])))
  | name identifier =>
      exact allReadable_nil.cons (isReadable_name (hnames identifier (by simp [Expr.names])))
  | string value => exact allReadable_nil.cons (isReadable_string value)
  | binary operator left right =>
      rw [Expr.names, List.forall_mem_append] at hnames
      rw [Expr.numbers, List.forall_mem_append] at hnumbers
      have hleft := allReadable_words left hnames.1 hnumbers.1
      have hright := allReadable_words right hnames.2 hnumbers.2
      exact (allReadable_grouped hleft).append
        ((allReadable_grouped hright).cons (isReadable_operator operator))
  | call function trees =>
      rw [Expr.names, List.forall_mem_cons] at hnames
      have harguments := allReadable_argumentWords trees hnames.2 hnumbers
      exact ((harguments.snoc isReadable_rightParen).cons isReadable_leftParen).cons
        (isReadable_name hnames.1)

theorem allReadable_argumentWords (trees : List Expr)
    (hnames : ∀ name ∈ Expr.namesOfAll trees, IsName name)
    (hnumbers : ∀ value ∈ Expr.numbersOfAll trees, 0 ≤ value.toInt) :
    AllReadable (Expr.argumentWords trees) := by
  match trees with
  | [] => exact allReadable_nil
  | [tree] =>
      rw [Expr.namesOfAll, List.forall_mem_append] at hnames
      rw [Expr.numbersOfAll, List.forall_mem_append] at hnumbers
      exact allReadable_words tree hnames.1 hnumbers.1
  | tree :: second :: trees =>
      rw [Expr.namesOfAll, List.forall_mem_append] at hnames
      rw [Expr.numbersOfAll, List.forall_mem_append] at hnumbers
      have hfirst := allReadable_words tree hnames.1 hnumbers.1
      have hrest := allReadable_argumentWords (second :: trees) hnames.2 hnumbers.2
      exact hfirst.append (hrest.cons (isReadable_mark rfl rfl))

end

theorem allReadable_statement (statement : Stmt) (hnames : ∀ name ∈ statement.names, IsName name)
    (hnumbers : ∀ value ∈ statement.expressions.flatMap Expr.numbers, 0 ≤ value.toInt) :
    AllReadable statement.words := by
  cases statement with
  | declare name init =>
      rw [Stmt.names, List.forall_mem_cons] at hnames
      have hname := isReadable_name hnames.1
      cases init with
      | none =>
          exact ((allReadable_nil.cons isReadable_semicolon).cons hname).cons isReadable_int
      | some init =>
          have hinit := allReadable_words init (by simpa using hnames.2)
            (by simpa [Stmt.expressions] using hnumbers)
          exact (((hinit.snoc isReadable_semicolon).cons isReadable_assign).cons hname).cons
            isReadable_int
  | assign name value =>
      rw [Stmt.names, List.forall_mem_cons] at hnames
      have hvalue := allReadable_words value hnames.2 (by simpa [Stmt.expressions] using hnumbers)
      exact ((hvalue.snoc isReadable_semicolon).cons isReadable_assign).cons
        (isReadable_name hnames.1)
  | returns value =>
      cases value with
      | none => exact (allReadable_nil.cons isReadable_semicolon).cons isReadable_return
      | some value =>
          have hvalue := allReadable_words value (by simpa [Stmt.names] using hnames)
            (by simpa [Stmt.expressions] using hnumbers)
          exact (hvalue.snoc isReadable_semicolon).cons isReadable_return
  | evaluate expression =>
      have hexpression := allReadable_words expression hnames
        (by simpa [Stmt.expressions] using hnumbers)
      exact hexpression.snoc isReadable_semicolon

theorem allReadable_flatMap {α : Type} {items : List α} {words : α → List Word}
    (hitems : ∀ item ∈ items, AllReadable (words item)) : AllReadable (items.flatMap words) := by
  intro word hword
  obtain ⟨item, hitem, hword⟩ := List.mem_flatMap.1 hword
  exact hitems item hitem word hword

theorem allReadable_function (function : Function)
    (hnames : ∀ name ∈ function.names, IsName name)
    (hnumbers : ∀ value ∈ function.expressions.flatMap Expr.numbers, 0 ≤ value.toInt) :
    AllReadable function.words := by
  rw [Function.names, List.forall_mem_cons] at hnames
  have hbody : AllReadable (function.body.flatMap Stmt.words) := by
    refine allReadable_flatMap fun statement hstatement => allReadable_statement statement ?_ ?_
    · intro name hname
      exact hnames.2 name (List.mem_flatMap.2 ⟨statement, hstatement, hname⟩)
    · intro value hvalue
      refine hnumbers value ?_
      rw [Function.expressions, List.flatMap_assoc]
      exact List.mem_flatMap.2 ⟨statement, hstatement, hvalue⟩
  have hstart := (hbody.snoc isReadable_rightBrace).cons isReadable_leftBrace
  exact (((hstart.cons isReadable_rightParen).cons isReadable_leftParen).cons
    (isReadable_name hnames.1)).cons isReadable_int

theorem allReadable_program (program : Program) (hnames : ∀ name ∈ program.names, IsName name)
    (hnumbers : ∀ value ∈ program.numbers, 0 ≤ value.toInt) : AllReadable program.words := by
  refine allReadable_flatMap fun function hfunction => allReadable_function function ?_ ?_
  · intro name hname
    exact hnames name (List.mem_flatMap.2 ⟨function, hfunction, hname⟩)
  · intro value hvalue
    refine hnumbers value ?_
    rw [Program.numbers, Program.expressions, List.flatMap_assoc]
    exact List.mem_flatMap.2 ⟨function, hfunction, hvalue⟩

/-! ## Reading back -/

theorem isWritten_nil : IsWritten [] [] := rfl

theorem isWritten_cons {tokens : List Token} {words : List Word} (word : Word) (offset : Nat)
    (hwritten : IsWritten tokens words) :
    IsWritten (⟨word.kind, String.ofList word.lexeme.toList, offset⟩ :: tokens)
      (word :: words) := by
  rw [String.ofList_toList]
  exact congrArg (word :: ·) hwritten

/-- A line of words splits into the words and the blanks between them. -/
theorem exists_splits (words : List Word) (hwords : AllReadable words) (offset : Nat) :
    ∃ pieces tokens, Scan.covered pieces = Word.line words ∧ IsWritten tokens words ∧
      Splits offset pieces tokens [] := by
  induction words generalizing offset with
  | nil => exact ⟨[], [], rfl, isWritten_nil, .nil⟩
  | cons word words ih =>
      obtain ⟨hword, hwords⟩ := List.forall_mem_cons.1 hwords
      cases words with
      | nil =>
          have hraw := hword [] (by simp)
          exact ⟨[.lexeme word.kind word.raw], _, by simp [Scan.covered, Piece.raw, Word.line],
            isWritten_cons word offset isWritten_nil, .token hraw .nil⟩
      | cons next words =>
          -- The word ends before a blank, and the rest of the line begins after it.
          obtain ⟨pieces, tokens, hcovered, hwritten, hsplits⟩ :=
            ih hwords (offset + Text.byteLength word.raw + Text.byteLength [' '])
          have hblank : IsTrivia [' '] (Scan.covered pieces ++ []) := .blank (by simp)
          have hraw := hword (Scan.covered (.trivia [' '] :: pieces) ++ [])
            (by simp [Scan.covered, Piece.raw])
          refine ⟨.lexeme word.kind word.raw :: .trivia [' '] :: pieces, _, ?_,
            isWritten_cons word offset hwritten, .token hraw (.trivia hblank hsplits)⟩
          rw [Word.line, List.map_cons, List.map_cons, List.intercalate_cons_cons, ← List.map_cons,
            ← Word.line, ← hcovered]
          simp [Scan.covered, Piece.raw]

/-- A line of words is read as the program that the words form within the limits. -/
theorem ofText_line {words : List Word} {program : Program} (hwords : AllReadable words)
    (hforms : ∀ tokens, IsWritten tokens words →
      FormsWithin .standard (List.flatMap Function.expressions) (FormsEach FormsFunction)
        program.functions tokens) :
    Program.ofText (String.ofList (Word.line words)) = .ok program := by
  obtain ⟨pieces, tokens, hcovered, hwritten, hsplits⟩ := exists_splits words hwords 0
  have hsplitting : IsSplitting (String.ofList (Word.line words)).toList pieces tokens [] :=
    ⟨by rw [List.append_nil, hcovered, String.toList_ofList], hsplits⟩
  -- The end of input that lexing appends is cut off again before reading.
  have hcut : Syntax.words (tokens ++ [.endAt (Text.byteLength
      (String.ofList (Word.line words)).toList)]) = tokens :=
    words_append hsplits.ne_endOfInput rfl
  have hfunctions := functions_eq_ok_iff.2 (hforms tokens hwritten)
  rw [← hcut] at hfunctions
  rw [Program.ofText, lex_of_isSplitting hsplitting]
  dsimp only
  rw [ofTokens_eq_ok.2 hfunctions]

/-- The source text of a program is read as that program. -/
theorem ofText_sourceText (program : Program) (hnames : ∀ name ∈ program.names, IsName name)
    (hnumbers : ∀ value ∈ program.numbers, 0 ≤ value.toInt)
    (hheight : ∀ expression ∈ program.expressions, expression.height ≤ 256) :
    Program.ofText program.sourceText = .ok program := by
  have hreadable := allReadable_program program hnames hnumbers
  obtain ⟨pieces, tokens, hcovered, hwritten, hsplits⟩ := exists_splits program.words hreadable 0
  have hsplitting : IsSplitting program.sourceText.toList pieces tokens [] := by
    refine ⟨?_, hsplits⟩
    rw [List.append_nil, hcovered, Program.sourceText, String.toList_ofList]
  obtain ⟨nesting, hlt, hforms⟩ :=
    exists_formsProgram program (by decide) ⟨hnumbers, hheight⟩ hwritten
  -- The end of input that lexing appends is cut off again before reading.
  have hwords : Syntax.words (tokens ++ [.endAt (Text.byteLength program.sourceText.toList)]) =
      tokens := words_append hsplits.ne_endOfInput rfl
  have hfunctions : Syntax.functions .standard tokens = .ok program.functions :=
    functions_eq_ok_iff.2 ⟨hheight, nesting, hlt, hforms⟩
  rw [← hwords] at hfunctions
  rw [Program.ofText, lex_of_isSplitting hsplitting]
  dsimp only
  rw [ofTokens_eq_ok.2 hfunctions]

/-- A program with parentheses, an escaped string and a call. -/
def sampleProgram : Program :=
  ⟨[⟨"main", [
    .declare "x" (some (.binary .sub (.number 3) (.binary .sub (.number 2) (.number 1)))),
    .assign "x" (.binary .mul (.binary .add (.name "x") (.number 1)) (.name "x")),
    .evaluate (.call "printf" [.string "\"%d\"\n", .name "x"]),
    .returns (some (.number 0))]⟩]⟩

theorem ofText_sourceText_sample :
    Program.ofText sampleProgram.sourceText = .ok sampleProgram := by
  have hnumbers : sampleProgram.numbers.all (fun value => 0 ≤ value.toInt) = true := rfl
  refine ofText_sourceText sampleProgram (by decide) (fun value hvalue => ?_) (by decide)
  simpa using List.all_eq_true.1 hnumbers value hvalue

end TinyC
