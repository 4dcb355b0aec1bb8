import TinyC.Proofs.Grammar.Numbers
import TinyC.Proofs.Script.Literals

/-!
# Numbers on their way into a script

A number in a program is a row of digits of any length, with any zeros before
the others.  If its decimal value fits in 64 bits, it is read as that value, and
otherwise reading fails at the number itself.  In the script the same value is
written as it is usually written, without zeros in front, which the script's
language would not accept.
-/

namespace TinyC

open ScriptLanguage Lexical

/-! ## Values of rows of digits -/

/-- The value of a row of decimal digits. -/
def decimalValue (lexeme : String) : Nat := Nat.ofDigitChars 10 lexeme.toList 0

/-- The largest number that a program can have, the last one below `2 ^ 63`. -/
def largestNumber : Nat := 9223372036854775807

example : largestNumber = 2 ^ 63 - 1 := by decide

/-- The lexeme of a number is a row of digits. -/
structure IsDigits (lexeme : String) : Prop where
  ne_nil : lexeme.toList ≠ []
  isDigit : ∀ c ∈ lexeme.toList, c.isDigit = true

/-- A row of digits stands for its decimal value, if that fits. -/
theorem IsDigits.toInt64?_eq {lexeme : String} (hdigits : IsDigits lexeme) :
    Numeral.toInt64? lexeme.toList =
      if decimalValue lexeme ≤ largestNumber then some (Int64.ofNat (decimalValue lexeme))
      else none :=
  Numeral.toInt64?_of_isDigit hdigits.ne_nil hdigits.isDigit

theorem toInt_ofNat_of_le {value : Nat} (hfits : value ≤ largestNumber) :
    (Int64.ofNat value).toInt = value :=
  Int64.toInt_ofNat_of_lt (Nat.lt_of_le_of_lt hfits (by decide))

/-! ## Numbers among words -/

namespace Lexical

theorem IsRaw.isDigits {lexeme : String} {raw rest : List Char}
    (hraw : IsRaw .number lexeme.toList raw rest) : IsDigits lexeme := by
  generalize htext : lexeme.toList = text at hraw
  cases hraw with
  | mark hmark _ => simp [Token.Kind.mark?] at hmark
  | number hne hdigits _ => exact ⟨by rwa [htext], by rwa [htext]⟩
  | word _ _ _ hkind => cases hkind

end Lexical

variable {source : String} {tokens : List Token}

/-- Every number that was lexed is a row of digits. -/
theorem isDigits_of_lex (hlex : Token.lex source = .ok tokens) :
    ∀ token ∈ tokens, token.kind = .number → IsDigits token.lexeme := by
  intro token htoken hkind
  rcases exists_isRaw_of_lex hlex token htoken with ⟨offset, rfl⟩ | ⟨raw, after, hraw⟩
  · cases hkind
  · rw [hkind] at hraw
    exact hraw.isDigits

theorem isDigits_of_mem_lexemes (hlex : Token.lex source = .ok tokens) :
    ∀ lexeme ∈ Grammar.lexemes .number tokens, IsDigits lexeme := by
  intro lexeme hlexeme
  obtain ⟨token, htoken, hkind, rfl⟩ : ∃ token ∈ tokens, token.kind = .number ∧
      token.lexeme = lexeme := by
    simpa [Grammar.lexemes] using hlexeme
  exact isDigits_of_lex hlex token htoken hkind

/-! ## Numbers in scripts -/

/-- The text is the one that a number usually has. -/
structure IsNumeral (text : String) (value : Nat) : Prop where
  text_eq : text = toString value
  no_zeros : text.toList.head? = some '0' → value = 0
  /-- The script's language reads it as the number. -/
  read : integerAt? text.toList = some (.integer value, [])

namespace Script

/-- The decimal text of a number is the usual one. -/
theorem isNumeral_ofInt (value : Nat) : IsNumeral (Numeral.ofInt value) value := by
  have hlast : IsSeparated [] := by simp [IsSeparated]
  have hdigits : (Numeral.ofInt value).toList = Numeral.digits 10 value := by
    simp [Numeral.ofInt, Numeral.ofNat]
  refine ⟨Numeral.ofNat_eq_toString value, fun hhead => ?_, ?_⟩
  · rw [hdigits] at hhead
    exact eq_zero_of_head?_digits hhead
  · have hread := integerAt?_digits value hlast
    rwa [List.append_nil, ← hdigits] at hread

namespace Expr

mutual

/-- The texts of the integers in an expression, in the order in which they are met. -/
def numerals : Expr → List String
  | .name _ | .text _ => []
  | .integer value => [(Expr.integer value).code]
  | .arithmetic _ left right => left.numerals ++ right.numerals
  | .call _ arguments => numeralsOfAll arguments

/-- The texts of the integers in the expressions of a list. -/
def numeralsOfAll : List Expr → List String
  | [] => []
  | argument :: rest => argument.numerals ++ numeralsOfAll rest

end

/-- The text of the integer that an expression is. -/
def numeral? : Expr → Option String
  | .integer value => some (Expr.integer value).code
  | .name _ | .text _ | .arithmetic _ _ _ | .call _ _ => none

theorem isCollected_numerals :
    IsCollected operands (fun expression => expression.numeral?.toList) numerals
      numeralsOfAll where
  node expression := by cases expression <;> simp [numerals, numeralsOfAll, operands, numeral?]
  nil := rfl
  cons _ _ := rfl

end Expr

/-- The integers of an expression are written for the numbers of its counterpart. -/
theorem numerals_ofExpr (expression : TinyC.Expr) :
    (Expr.ofExpr expression).numerals =
      expression.numbers.map fun value => Numeral.ofInt value.toInt := by
  refine Expr.isCollected_numerals.ofExpr.eq
    (TinyC.Expr.isCollected_numbers.image (List.map fun value => Numeral.ofInt value.toInt)
      rfl fun _ _ => List.map_append) (fun expression => ?_) expression
  cases expression with
  | binary operator left right => cases operator <;> rfl
  | _ => rfl

/-- The texts of the integers in the expressions of a program's script. -/
def numerals (program : Program) : List String :=
  program.expressions.flatMap fun expression => (Expr.ofExpr expression).numerals

theorem numerals_eq (program : Program) :
    numerals program = program.numbers.map fun value => Numeral.ofInt value.toInt := by
  rw [numerals, Program.numbers, List.map_flatMap]
  exact congrArg (List.flatMap · program.expressions) (funext numerals_ofExpr)

end Script

/-! ## From source to script -/

/-- A number is read as its decimal value if that fits, and written as that value. -/
structure KeepsValue (number : Token) : Prop where
  digits : IsDigits number.lexeme
  /-- Where an expression may begin, the number is read as its value, or reading fails at it. -/
  read : ∀ limit nested rest, Syntax.primary limit nested (number :: rest) =
    if decimalValue number.lexeme ≤ largestNumber then
      .ok (⟨.number (Int64.ofNat (decimalValue number.lexeme)), 1⟩, rest)
    else .error ⟨.integerThatFits, number :: rest⟩
  /-- What it is read as has its value. -/
  value : decimalValue number.lexeme ≤ largestNumber →
    (Int64.ofNat (decimalValue number.lexeme)).toInt = decimalValue number.lexeme
  /-- That is written as the usual text of its value. -/
  written : decimalValue number.lexeme ≤ largestNumber →
    IsNumeral (Script.Expr.ofExpr (.number (Int64.ofNat (decimalValue number.lexeme)))).code
      (decimalValue number.lexeme)

/-- What becomes of the numbers among tokens. -/
structure KeepsNumbers (tokens : List Token) : Prop where
  single : ∀ number ∈ tokens, number.kind = .number → KeepsValue number
  /-- All numbers of a program fit. -/
  fit : ∀ program, Program.ofTokens tokens = .ok program →
    ∀ lexeme ∈ Grammar.lexemes .number tokens, decimalValue lexeme ≤ largestNumber
  /-- Those in its tree have their values. -/
  values : ∀ program, Program.ofTokens tokens = .ok program →
    program.numbers.map Int64.toInt =
      (Grammar.lexemes .number tokens).map fun lexeme => Int.ofNat (decimalValue lexeme)
  /-- Those in its script are the usual texts of their values. -/
  texts : ∀ program, Program.ofTokens tokens = .ok program →
    Script.numerals program =
      (Grammar.lexemes .number tokens).map fun lexeme => toString (decimalValue lexeme)
  /-- A number that does not fit is the token of the error, if reading would come to the words after
  another number in its place. -/
  refused : ∀ before number after, Syntax.words tokens = before ++ number :: after →
    number.kind = .number → largestNumber < decimalValue number.lexeme →
      ∀ other : Token, other.kind = .number →
        Grammar.Reaches .standard (before ++ other :: after) after →
          Program.ofTokens tokens = .error ⟨.integerThatFits, number⟩

theorem keepsValue_of_isDigits {number : Token} (hkind : number.kind = .number)
    (hdigits : IsDigits number.lexeme) : KeepsValue number where
  digits := hdigits
  read := by
    intro limit nested rest
    obtain ⟨kind, lexeme, offset⟩ := number
    obtain rfl : kind = .number := hkind
    rw [Syntax.primary_number, hdigits.toInt64?_eq]
    split <;> simp_all
  value := toInt_ofNat_of_le
  written := by
    intro hfits
    have hcode : (Script.Expr.ofExpr (.number (Int64.ofNat (decimalValue number.lexeme)))).code =
        Numeral.ofInt (decimalValue number.lexeme) := by
      rw [Script.Expr.ofExpr, Script.Expr.code, toInt_ofNat_of_le hfits]
    rw [hcode]
    exact Script.isNumeral_ofInt _

section

variable (hlex : Token.lex source = .ok tokens) {program : Program}
  (hread : Program.ofTokens tokens = .ok program)

include hlex hread

theorem map_some_numbers :
    program.numbers.map some =
      (Grammar.lexemes .number tokens).map fun lexeme => Numeral.toInt64? lexeme.toList := by
  obtain ⟨-, nesting, -, hforms⟩ := Grammar.functions_eq_ok_iff.1 (Grammar.ofTokens_eq_ok.1 hread)
  have hprogram : Grammar.FormsProgram program (Syntax.words tokens) nesting := hforms
  rw [hprogram.numbers_eq, Grammar.numbers, Script.lexemes_words hlex (by decide)]

/-- All numbers of a program fit. -/
theorem decimalValue_le :
    ∀ lexeme ∈ Grammar.lexemes .number tokens, decimalValue lexeme ≤ largestNumber := by
  intro lexeme hlexeme
  have hmem : Numeral.toInt64? lexeme.toList ∈ program.numbers.map some := by
    rw [map_some_numbers hlex hread]
    exact List.mem_map_of_mem hlexeme
  obtain ⟨value, -, hvalue⟩ := List.mem_map.1 hmem
  rw [(isDigits_of_mem_lexemes hlex lexeme hlexeme).toInt64?_eq] at hvalue
  refine Decidable.byContradiction fun hlarge => ?_
  rw [if_neg hlarge] at hvalue
  cases hvalue

/-- The numbers in a program's tree have the values of its number words. -/
theorem numbers_eq_decimalValue :
    program.numbers.map Int64.toInt =
      (Grammar.lexemes .number tokens).map fun lexeme => Int.ofNat (decimalValue lexeme) := by
  have hfit := decimalValue_le hlex hread
  have hsome : program.numbers.map some =
      ((Grammar.lexemes .number tokens).map fun lexeme => Int64.ofNat (decimalValue lexeme)).map
        some := by
    rw [map_some_numbers hlex hread, List.map_map]
    refine List.map_congr_left fun lexeme hlexeme => ?_
    rw [(isDigits_of_mem_lexemes hlex lexeme hlexeme).toInt64?_eq, if_pos (hfit lexeme hlexeme)]
    rfl
  have hnumbers := (List.map_inj_right fun _ _ => Option.some.inj).1 hsome
  rw [hnumbers, List.map_map]
  exact List.map_congr_left fun lexeme hlexeme => toInt_ofNat_of_le (hfit lexeme hlexeme)

/-- The numbers in a program's script are the usual texts of these values. -/
theorem numerals_eq_toString :
    Script.numerals program =
      (Grammar.lexemes .number tokens).map fun lexeme => toString (decimalValue lexeme) := by
  have hnumerals : Script.numerals program =
      (program.numbers.map Int64.toInt).map Numeral.ofInt := by
    rw [Script.numerals_eq, List.map_map]
    rfl
  rw [hnumerals, numbers_eq_decimalValue hlex hread, List.map_map]
  exact List.map_congr_left fun lexeme _ => Numeral.ofNat_eq_toString (decimalValue lexeme)

end

/-- A number that does not fit is the token of the error, if reading comes to it. -/
theorem ofTokens_of_unfit (hlex : Token.lex source = .ok tokens) {before after : List Token}
    {number other : Token} (hwords : Syntax.words tokens = before ++ number :: after)
    (hkind : number.kind = .number) (hlarge : largestNumber < decimalValue number.lexeme)
    (hother : other.kind = .number)
    (hreaches : Grammar.Reaches .standard (before ++ other :: after) after) :
    Program.ofTokens tokens = .error ⟨.integerThatFits, number⟩ := by
  have hlexeme : number.lexeme ∈ Grammar.lexemes .number tokens := by
    rw [← Script.lexemes_words hlex (by decide), hwords]
    simp [Grammar.lexemes_cons, hkind]
  have hunfit : Numeral.toInt64? number.lexeme.toList = none := by
    rw [(isDigits_of_mem_lexemes hlex _ hlexeme).toInt64?_eq, if_neg (Nat.not_le_of_lt hlarge)]
  rw [Program.ofTokens, hwords, Grammar.functions_of_unfit hkind hunfit hother hreaches]
  rfl

/-- The numbers of a text keep their values on the way into the script. -/
theorem numbers_keep_values (hlex : Token.lex source = .ok tokens) : KeepsNumbers tokens where
  single number hnumber hkind :=
    keepsValue_of_isDigits hkind (isDigits_of_lex hlex number hnumber hkind)
  fit _ hread := decimalValue_le hlex hread
  values _ hread := numbers_eq_decimalValue hlex hread
  texts _ hread := numerals_eq_toString hlex hread
  refused _ _ _ hwords hkind hlarge _ hother hreaches :=
    ofTokens_of_unfit hlex hwords hkind hlarge hother hreaches

/-! ## Concrete texts -/

/-- A text with zeros before a number, and with the largest number. -/
def padded : String := "int main() \x7b return 007 + 9223372036854775807; \x7d"

/-- The tokens of that text. -/
def paddedTokens : List Token :=
  [⟨.intKeyword, "int", 0⟩, ⟨.identifier, "main", 4⟩, ⟨.leftParen, "(", 8⟩, ⟨.rightParen, ")", 9⟩,
    ⟨.leftBrace, "\x7b", 11⟩, ⟨.returnKeyword, "return", 13⟩, ⟨.number, "007", 20⟩,
    ⟨.plus, "+", 24⟩, ⟨.number, "9223372036854775807", 26⟩, ⟨.semicolon, ";", 45⟩,
    ⟨.rightBrace, "\x7d", 47⟩, ⟨.endOfInput, "", 48⟩]

/-- The program in that text. -/
def paddedProgram : Program :=
  ⟨[⟨"main", [.returns (some (.binary .add (.number 7) (.number 9223372036854775807)))]⟩]⟩

/-- A text with a number that does not fit, and with a mistake after it. -/
def oversized : String := "int main() \x7b return 1 + 09223372036854775808 * f(; \x7d"

/-- The words of that text before the number. -/
def oversizedStart : List Token :=
  [⟨.intKeyword, "int", 0⟩, ⟨.identifier, "main", 4⟩, ⟨.leftParen, "(", 8⟩, ⟨.rightParen, ")", 9⟩,
    ⟨.leftBrace, "\x7b", 11⟩, ⟨.returnKeyword, "return", 13⟩, ⟨.number, "1", 20⟩, ⟨.plus, "+", 22⟩]

/-- The number. -/
def oversizedNumber : Token := ⟨.number, "09223372036854775808", 24⟩

/-- The words of that text after the number. -/
def oversizedRest : List Token :=
  [⟨.star, "*", 45⟩, ⟨.identifier, "f", 47⟩, ⟨.leftParen, "(", 48⟩, ⟨.semicolon, ";", 49⟩,
    ⟨.rightBrace, "\x7d", 51⟩]

/-- With another number, the text would be read as far as the mistake. -/
theorem reaches_oversizedRest :
    Grammar.Reaches .standard (oversizedStart ++ ⟨.number, "0", 24⟩ :: oversizedRest)
      oversizedRest := by
  have hread : Syntax.functions .standard
      (oversizedStart ++ ⟨.number, "0", 24⟩ :: oversizedRest) =
        .error ⟨.expression, oversizedRest.drop 3⟩ :=
    eq_error_of_error? (by decide +kernel)
  intro failure hfailure
  rw [hread] at hfailure
  cases hfailure
  exact List.drop_suffix 3 oversizedRest

/-- Zeros before a number do not count, and the script has none of them. -/
theorem numbers_keep_values_padded :
    (Token.lex padded = .ok paddedTokens ∧ Program.ofTokens paddedTokens = .ok paddedProgram ∧
      paddedProgram.numbers.map Int64.toInt = [7, 9223372036854775807] ∧
      Script.numerals paddedProgram = ["7", "9223372036854775807"]) ∧
    ∃ tokens, Token.lex oversized = .ok tokens ∧
      Program.ofTokens tokens = .error ⟨.integerThatFits, oversizedNumber⟩ := by
  constructor
  · have hlex : Token.lex padded = .ok paddedTokens := eq_ok_of_toOption (by decide +kernel)
    have hread : Program.ofTokens paddedTokens = .ok paddedProgram :=
      eq_ok_of_toOption (by decide +kernel)
    have hkeeps := numbers_keep_values hlex
    exact ⟨hlex, hread, (hkeeps.values _ hread).trans (by decide +kernel),
      (hkeeps.texts _ hread).trans (by decide +kernel)⟩
  · have hlex : Token.lex oversized =
        .ok (oversizedStart ++ oversizedNumber :: oversizedRest ++ [⟨.endOfInput, "", 52⟩]) :=
      eq_ok_of_toOption (by decide +kernel)
    exact ⟨_, hlex, (numbers_keep_values hlex).refused oversizedStart oversizedNumber oversizedRest
      rfl rfl (by decide) ⟨.number, "0", 24⟩ rfl reaches_oversizedRest⟩

end TinyC
