import TinyC.Proofs.Lexical.Pieces
import TinyC.Proofs.Numeral
import TinyC.Proofs.ScriptLanguage.Word
import TinyC.Proofs.Text.Delimited
import TinyC.Script

/-!
# The words of a script's expressions

The text of an expression has the words that its structure asks for, whatever
names, numbers and strings are in it.

## Strategy

Each kind of word is found at the beginning of a text when a separator follows
it, and separators are words of one character.  The lemmas say of the text of a
part how the words of any longer text begin; along an expression they are put
together in the order of the text.
-/

namespace TinyC.Script

open ScriptLanguage Lexical

/-! ## Separators -/

/-- The text goes on with a separator, or not at all. -/
def IsSeparated (rest : List Char) : Prop := ∀ c ∈ rest.head?, c ∈ [' ', '(', ')', ',']

theorem isSeparated_cons {c : Char} {rest : List Char} :
    IsSeparated (c :: rest) ↔ c ∈ [' ', '(', ')', ','] := by
  simp [IsSeparated]

/-- With what no separator is, the text does not go on. -/
theorem IsSeparated.any_eq_false {rest : List Char} {property : Char → Bool}
    (hrest : IsSeparated rest) (hnone : [' ', '(', ')', ','].any property = false) :
    rest.head?.any property = false := by
  cases rest with
  | nil => rfl
  | cons c rest => simpa using List.any_eq_false.1 hnone c (isSeparated_cons.1 hrest)

theorem IsSeparated.head_eq_false {rest : List Char} {property : Char → Bool}
    (hrest : IsSeparated rest) (hnone : [' ', '(', ')', ','].any property = false) :
    ∀ c ∈ rest.head?, property c = false :=
  fun c hc => by simpa using List.any_eq_false.1 hnone c (hrest c hc)

/-! ## Runs of characters -/

section

variable {belongs : Char → Bool} {run rest : List Char}

/-- A run before a character that does not belong to it is what is taken. -/
theorem takeWhile_run (hrun : ∀ c ∈ run, belongs c = true)
    (hrest : ∀ c ∈ rest.head?, belongs c = false) : (run ++ rest).takeWhile belongs = run := by
  rw [List.takeWhile_append_of_pos hrun]
  cases rest with
  | nil => simp
  | cons c rest => simp [hrest c rfl]

theorem dropWhile_run (hrun : ∀ c ∈ run, belongs c = true)
    (hrest : ∀ c ∈ rest.head?, belongs c = false) : (run ++ rest).dropWhile belongs = rest := by
  rw [List.dropWhile_append_of_pos hrun]
  cases rest with
  | nil => rfl
  | cons c rest => rw [List.dropWhile_cons_of_neg (by simp [hrest c rfl])]

end

/-! ## Names -/

/-- The text is taken as a whole where a name may stand, and is no reserved word. -/
structure IsRow (text : String) : Prop where
  exists_cons : ∃ first others, text.toList = first :: others ∧ startsName first = true ∧
    ∀ c ∈ others, continuesName c = true
  not_reserved : text ∉ reserved

/-- A row of characters that names may have is one word, if any. -/
theorem words?_ofRow {text : String} {first : Char} {others rest : List Char}
    (htext : text.toList = first :: others) (hfirst : startsName first = true)
    (hothers : ∀ c ∈ others, continuesName c = true) (hrest : IsSeparated rest) :
    words? (text.toList ++ rest) =
      (ScriptLanguage.Word.ofRow? text).bind fun word => (words? rest).map (word :: ·) := by
  have hrun : ∀ c ∈ first :: others, continuesName c = true :=
    List.forall_mem_cons.2 ⟨by simp [continuesName, hfirst], hothers⟩
  have hstop : ∀ c ∈ rest.head?, continuesName c = false := hrest.head_eq_false (by decide)
  have hquote : rest.head?.any isQuote = false := hrest.any_eq_false (by decide)
  have hword : first? (first :: (others ++ rest)) =
      (ScriptLanguage.Word.ofRow? text).map fun word => (word, rest) := by
    rw [first?, List.head?_cons]
    simp only [hfirst, if_true]
    rw [nameAt?, ← List.cons_append, takeWhile_run hrun hstop, dropWhile_run hrun hstop,
      ← htext, String.ofList_toList, hquote]
    rfl
  obtain ⟨hblank, -, hremark⟩ := begins_word_of hfirst (by decide)
  rw [htext]
  cases hrow : ScriptLanguage.Word.ofRow? text with
  | none =>
      rw [hrow] at hword
      exact words?_eq_none_of_first? hblank hremark hword
  | some word =>
      rw [hrow] at hword
      exact words?_of_first? hblank hremark hword

/-- A row is a name if it has the shape of one, and cannot be read otherwise. -/
theorem words?_row {text : String} {rest : List Char} (htext : IsRow text)
    (hrest : IsSeparated rest) :
    words? (text.toList ++ rest) =
      if isName text then (words? rest).map (.name text :: ·) else none := by
  obtain ⟨first, others, hcons, hfirst, hothers⟩ := htext.exists_cons
  rw [words?_ofRow hcons hfirst hothers hrest, ScriptLanguage.Word.ofRow?,
    if_neg (by simpa using htext.not_reserved)]
  split <;> rfl

theorem words?_keyword {keyword : String} (hkeyword : keyword ∈ reserved) (rest : List Char) :
    words? (keyword.toList ++ ' ' :: rest) = (words? rest).map (.keyword keyword :: ·) := by
  have hshape : ∀ keyword ∈ reserved, keyword.toList.head?.any startsName = true ∧
      keyword.toList.tail.all continuesName = true := by
    decide +kernel
  obtain ⟨hstarts, hcontinues⟩ := hshape keyword hkeyword
  cases htext : keyword.toList with
  | nil => simp [htext] at hstarts
  | cons first others =>
      rw [htext] at hstarts hcontinues
      rw [← htext, words?_ofRow htext hstarts (List.all_eq_true.1 hcontinues)
        (isSeparated_cons.2 (by decide)), ScriptLanguage.Word.ofRow?,
        if_pos (by simpa using hkeyword), words?_blank]
      rfl

/-! ## Integers -/

theorem startsName_of_isDigit {c : Char} (hdigit : c.isDigit = true) : startsName c = false := by
  have hbounds : 48 ≤ c.val ∧ c.val ≤ 57 := by simpa [Char.isDigit] using hdigit
  have hlow : c.val < 0x80 := UInt32.lt_of_le_of_lt hbounds.2 (by decide)
  have hstarts := startsIdentifier_of_isDigit hdigit
  rw [Token.startsIdentifier, Unicode.isAlphabetic_of_isAlpha hlow] at hstarts
  rw [startsName, hstarts, Bool.false_or]
  exact decide_eq_false (UInt32.not_le.2 hlow)

/-- Only zero is written with a zero at its beginning. -/
theorem eq_zero_of_head?_digits {value : Nat}
    (hhead : (Numeral.digits 10 value).head? = some '0') : value = 0 := by
  induction value using Nat.strongRecOn with
  | ind value ih =>
      unfold Numeral.digits at hhead
      split at hhead
      · rename_i hlow
        have hdigit : ∀ value < 10, Numeral.digit value = '0' → value = 0 := by decide
        exact hdigit value (by omega) (by simpa using hhead)
      · rename_i hhigh
        have hnonempty := Numeral.digits_ne_nil 10 (value / 10)
        have hzero := ih (value / 10) (by omega) (by
          rwa [List.head?_append, List.head?_eq_some_head hnonempty, Option.some_or,
            ← List.head?_eq_some_head hnonempty] at hhead)
        omega

/-- The digits of a number are read as that number. -/
theorem integerAt?_digits (value : Nat) {rest : List Char} (hrest : IsSeparated rest) :
    integerAt? (Numeral.digits 10 value ++ rest) = some (.integer value, rest) := by
  have hdigits := Numeral.isDigit_of_mem_digits value
  have hstop : ∀ c ∈ rest.head?, c.isDigit = false := hrest.head_eq_false (by decide)
  have hafter : (rest.head?.any fun c => continuesName c || c = '.') = false :=
    hrest.any_eq_false (by decide)
  have hzeros : (Numeral.digits 10 value).head? = some '0' →
      ∀ c ∈ Numeral.digits 10 value, c = '0' := by
    intro hhead
    obtain rfl := eq_zero_of_head?_digits hhead
    simp [Numeral.digits, Numeral.digit]
  have hplain : ((Numeral.digits 10 value).head? = some '0' &&
      (Numeral.digits 10 value).any fun c => c ≠ '0') = false := by
    simpa using hzeros
  rw [integerAt?, takeWhile_run hdigits hstop, dropWhile_run hdigits hstop, hafter, hplain,
    Numeral.valueOf_digits]
  rfl

theorem words?_integer (value : Nat) {rest : List Char} (hrest : IsSeparated rest) :
    words? (Numeral.digits 10 value ++ rest) = (words? rest).map (.integer value :: ·) := by
  have hdigits := Numeral.isDigit_of_mem_digits value
  have hinteger := integerAt?_digits value hrest
  cases hrow : Numeral.digits 10 value with
  | nil => exact absurd hrow (Numeral.digits_ne_nil 10 value)
  | cons first others =>
      rw [hrow] at hinteger hdigits
      have hfirst : first.isDigit = true := hdigits first List.mem_cons_self
      have hletter : startsName first = false := startsName_of_isDigit hfirst
      obtain ⟨hblank, -, hremark⟩ := begins_word_of hfirst (by decide)
      refine words?_of_first? hblank hremark ?_
      rw [first?, List.head?_cons]
      simp only [hletter, hfirst, Bool.false_eq_true, if_false, if_true]
      exact hinteger

/-! ## Strings -/

theorem hexadecimal?_digit {value : Nat} (hlow : value < 16) :
    hexadecimal? (Numeral.digit value) = some value := by
  have hall : ∀ value < 16, hexadecimal? (Numeral.digit value) = some value := by decide
  exact hall value hlow

theorem body?_escape (c : Char) (text : List Char) :
    body? (Literal.escape c ++ text) = (body? text).map (Prod.map (c :: ·) id) := by
  unfold Literal.escape
  split
  · rename_i hc
    obtain rfl | rfl := hc <;> rfl
  rename_i hplain
  split
  · rename_i hc
    subst hc
    rfl
  split
  · rename_i hc
    subst hc
    rfl
  split
  · rename_i hc
    subst hc
    rfl
  rename_i hfeed _ hreturn
  split
  · rename_i hcontrol
    have hlow := Unicode.toNat_lt_of_isControl hcontrol
    have hnumber : numbered? (Numeral.digit (c.toNat / 16)) (Numeral.digit (c.toNat % 16)) =
        some c := by
      rw [numbered?, hexadecimal?_digit (by omega), hexadecimal?_digit (by omega)]
      simp only [Nat.div_add_mod, Char.ofNat_toNat]
    simp only [Literal.control, List.cons_append, List.nil_append]
    rw [body?, hnumber]
    rfl
  · rw [not_or] at hplain
    rw [List.singleton_append, body?, if_neg]
    · simp [endsLine, hfeed, hreturn, hplain.1]
    · exact hplain.2
    · rintro high low rest rfl
      exact absurd rfl hplain.1
    · rintro letter rest rfl
      exact absurd rfl hplain.1

theorem body?_flatMap_escape (value rest : List Char) :
    body? (value.flatMap Literal.escape ++ '"' :: rest) = some (value, rest) := by
  induction value with
  | nil => rfl
  | cons c value ih => rw [List.flatMap_cons, List.append_assoc, body?_escape, ih]; rfl

/-- No character stands in a literal as a mere quote. -/
theorem exists_escape_eq (c : Char) :
    ∃ first others, Literal.escape c = first :: others ∧ first ≠ '"' := by
  unfold Literal.escape
  split
  · exact ⟨_, _, rfl, by decide⟩
  rename_i hplain
  iterate 3
    split
    · exact ⟨_, _, rfl, by decide⟩
  split
  · exact ⟨_, _, rfl, by decide⟩
  · exact ⟨_, _, rfl, fun hquote => hplain (.inr hquote)⟩

/-- A literal is read as the text that it stands for, unless another quote follows. -/
theorem textAt?_encode (value : List Char) {rest : List Char} (hrest : rest.head? ≠ some '"') :
    textAt? (Literal.encode value ++ rest) = some (.text (String.ofList value), rest) := by
  have hliteral : Literal.encode value ++ rest =
      '"' :: (value.flatMap Literal.escape ++ '"' :: rest) := by
    simp [Literal.encode]
  -- Not three quotes in a row: none follows the literal of nothing, and none begins another.
  have hsingle : ∀ after, value.flatMap Literal.escape ++ '"' :: rest ≠ '"' :: '"' :: after := by
    rintro after heq
    cases value with
    | nil =>
        obtain rfl := List.tail_eq_of_cons_eq heq
        exact hrest rfl
    | cons c value =>
        obtain ⟨first, others, hescape, hfirst⟩ := exists_escape_eq c
        rw [List.flatMap_cons, hescape] at heq
        exact hfirst (List.head_eq_of_cons_eq heq)
  rw [hliteral, textAt?, body?_flatMap_escape]
  · rfl
  · exact fun after heq => hsingle after heq

theorem words?_encode (value : List Char) {rest : List Char} (hrest : IsSeparated rest) :
    words? (Literal.encode value ++ rest) =
      (words? rest).map (.text (String.ofList value) :: ·) := by
  have hquote : rest.head? ≠ some '"' := fun hhead => absurd (hrest '"' hhead) (by decide)
  exact words?_of_first? (by decide) (by decide) (textAt?_encode value hquote)

/-! ## Expressions -/

namespace Expr

mutual

/-- The words of an expression. -/
def words : Expr → List ScriptLanguage.Word
  | .integer (.ofNat value) => [.integer value]
  | .integer (.negSucc value) => [.sign "-", .integer (value + 1)]
  | .name identifier => [.name identifier]
  | .text value => [.text value]
  | .arithmetic operator left right =>
      .sign "(" :: (left.words ++ .sign operator.sign :: (right.words ++ [.sign ")"]))
  | .call function arguments =>
      .name function :: .sign "(" :: (argumentWords arguments ++ [.sign ")"])

/-- The words of arguments. -/
def argumentWords : List Expr → List ScriptLanguage.Word
  | [] => []
  | first :: rest => first.words ++ otherWords rest

/-- The words of arguments that follow others. -/
def otherWords : List Expr → List ScriptLanguage.Word
  | [] => []
  | argument :: rest => .sign "," :: (argument.words ++ otherWords rest)

end

end Expr

theorem words?_opening (rest : List Char) :
    words? ('(' :: rest) = (words? rest).map (.sign "(" :: ·) :=
  words?_of_first? (by decide) (by decide) rfl

theorem words?_closing (rest : List Char) :
    words? (')' :: rest) = (words? rest).map (.sign ")" :: ·) :=
  words?_of_first? (by decide) (by decide) rfl

theorem words?_comma (rest : List Char) :
    words? (',' :: ' ' :: rest) = (words? rest).map (.sign "," :: ·) := by
  rw [← words?_blank rest]
  exact words?_of_first? (by decide) (by decide) rfl

theorem words?_operator (operator : Operator) (rest : List Char) :
    words? (' ' :: (operator.sign.toList ++ ' ' :: rest)) =
      (words? rest).map (.sign operator.sign :: ·) := by
  rw [words?_blank, ← words?_blank rest]
  cases operator <;> exact words?_of_first? (by decide) (by decide) rfl

/-- A minus sign before a number is a word of its own. -/
theorem words?_minus (value : Nat) (rest : List Char) :
    words? ('-' :: (Numeral.digits 10 value ++ rest)) =
      (words? (Numeral.digits 10 value ++ rest)).map (.sign "-" :: ·) := by
  refine words?_of_first? (by decide) (by decide) ?_
  cases hrow : Numeral.digits 10 value with
  | nil => exact absurd hrow (Numeral.digits_ne_nil 10 value)
  | cons first others =>
      have hfirst := Numeral.isDigit_of_mem_digits value first (by simp [hrow])
      have hequal : '=' ≠ first := by
        rintro rfl
        exact absurd hfirst (by decide)
      have hgreater : '>' ≠ first := by
        rintro rfl
        exact absurd hfirst (by decide)
      simp [first?, signAt?, signs, List.isPrefixOf, startsName, hequal, hgreater]

theorem isSeparated_otherCodes (expressions : List Expr) {rest : List Char}
    (hrest : IsSeparated rest) :
    IsSeparated
      ((Expr.codes expressions).flatMap (fun text => ',' :: ' ' :: text.toList) ++ rest) := by
  cases expressions with
  | nil => exact hrest
  | cons first others => exact isSeparated_cons.2 (by decide)

mutual

theorem words?_code (expression : Expr) (hnames : ∀ name ∈ expression.names, IsRow name)
    {rest : List Char} (hrest : IsSeparated rest) :
    words? (expression.code.toList ++ rest) =
      if expression.names.all isName then (words? rest).map (expression.words ++ ·) else none := by
  cases expression with
  | integer value =>
      cases value with
      | ofNat value =>
          rw [Expr.code, Numeral.ofInt, Numeral.ofNat, String.toList_ofList,
            words?_integer value hrest]
          rfl
      | negSucc value =>
          have htext : (Expr.integer (.negSucc value)).code.toList ++ rest =
              '-' :: (Numeral.digits 10 (value + 1) ++ rest) := by
            simp [Expr.code, Numeral.ofInt, Numeral.ofNat]
          rw [htext, words?_minus, words?_integer (value + 1) hrest]
          simp [Expr.names, Expr.words, Function.comp_def]
  | name identifier =>
      rw [Expr.code, words?_row (hnames identifier (by simp [Expr.names])) hrest]
      simp [Expr.names, Expr.words]
  | text value =>
      rw [Expr.code, String.toList_ofList, words?_encode _ hrest, String.ofList_toList]
      rfl
  | arithmetic operator left right =>
      rw [Expr.names, List.forall_mem_append] at hnames
      have htext : (Expr.arithmetic operator left right).code.toList ++ rest =
          '(' :: (left.code.toList ++ ' ' :: (operator.sign.toList ++ ' ' ::
            (right.code.toList ++ ')' :: rest))) := by
        simp [Expr.code]
      rw [htext, words?_opening,
        words?_code left hnames.1 (isSeparated_cons.2 (by decide)), words?_operator,
        words?_code right hnames.2 (isSeparated_cons.2 (by decide)), words?_closing]
      rw [Expr.names, List.all_append]
      cases left.names.all isName <;> cases right.names.all isName <;>
        simp [Expr.words, Function.comp_def]
  | call function arguments =>
      rw [Expr.names, List.forall_mem_cons] at hnames
      have htext : (Expr.call function arguments).code.toList ++ rest =
          function.toList ++ '(' :: ((", ".intercalate (Expr.codes arguments)).toList ++
            ')' :: rest) := by
        simp [Expr.code]
      rw [htext, words?_row hnames.1 (isSeparated_cons.2 (by decide)), words?_opening]
      cases arguments with
      | nil =>
          rw [Expr.codes, String.intercalate_nil, String.toList_empty, List.nil_append,
            words?_closing]
          simp [Expr.names, Expr.namesOfAll, Expr.words, Expr.argumentWords, Function.comp_def]
      | cons first others =>
          rw [Expr.namesOfAll, List.forall_mem_append] at hnames
          rw [Expr.codes, toList_intercalate_cons, List.append_assoc,
            words?_code first hnames.2.1
              (isSeparated_otherCodes others (isSeparated_cons.2 (by decide))),
            words?_codes others hnames.2.2 (isSeparated_cons.2 (by decide)), words?_closing]
          rw [Expr.names, List.all_cons, Expr.namesOfAll, List.all_append]
          cases isName function <;> cases first.names.all isName <;>
            cases (Expr.namesOfAll others).all isName <;>
              simp [Expr.words, Expr.argumentWords, Function.comp_def]

theorem words?_codes (expressions : List Expr)
    (hnames : ∀ name ∈ Expr.namesOfAll expressions, IsRow name) {rest : List Char}
    (hrest : IsSeparated rest) :
    words? ((Expr.codes expressions).flatMap (fun text => ',' :: ' ' :: text.toList) ++ rest) =
      if (Expr.namesOfAll expressions).all isName then
        (words? rest).map (Expr.otherWords expressions ++ ·)
      else none := by
  cases expressions with
  | nil => simp [Expr.codes, Expr.namesOfAll, Expr.otherWords]
  | cons first others =>
      rw [Expr.namesOfAll, List.forall_mem_append] at hnames
      rw [Expr.codes, List.flatMap_cons, List.append_assoc, List.cons_append, List.cons_append,
        words?_comma, words?_code first hnames.1 (isSeparated_otherCodes others hrest),
        words?_codes others hnames.2 hrest]
      rw [Expr.namesOfAll, List.all_append]
      cases first.names.all isName <;> cases (Expr.namesOfAll others).all isName <;>
        simp [Expr.otherWords, Function.comp_def]

end

end TinyC.Script
