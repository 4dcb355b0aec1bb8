import TinyC.Proofs.ScriptLanguage.Line
import TinyC.Script.Acceptance
import TinyC.Text.Numeral

/-!
# Words of the script's language

A line of a script is a row of words with blanks between them, and perhaps a
remark at its end:

    name     = a row of letters, digits and _ that has the shape of a name
    keyword  = one of the reserved words
    integer  = decimal digits, the first one zero only if all are
    text     = " characters and escapes "
    sign     = one of the operators and delimiters

A word is as long as it can be.  What is not read here is a line that has other
words of the language in it: numbers in other bases or with fractions, strings in
other quotes or with a letter before them, and escapes by name or in octal.
-/

namespace TinyC.ScriptLanguage

/-- A word of a line. -/
inductive Word
  | name (text : String)
  | keyword (text : String)
  | integer (value : Nat)
  | text (value : String)
  | sign (text : String)
  deriving DecidableEq, Repr

/-! ## Names -/

/-- The reserved words. -/
def reserved : List String :=
  ["False", "None", "True", "and", "as", "assert", "async", "await", "break", "class", "continue",
    "def", "del", "elif", "else", "except", "finally", "for", "from", "global", "if", "import",
    "in", "is", "lambda", "nonlocal", "not", "or", "pass", "raise", "return", "try", "while",
    "with", "yield"]

/-- Whether a character is taken into a row that may be a name, and may begin one. -/
def startsName (c : Char) : Bool := c.isAlpha || c = '_' || 0x80 ≤ c.val

/-- Whether a character is taken into a row that may be a name. -/
def continuesName (c : Char) : Bool := startsName c || c.isDigit

/-- Whether a character is one of the quotes. -/
def isQuote (c : Char) : Bool := c = '"' || c = '\''

/-- The word that a row of letters, digits and underscores is. -/
def Word.ofRow? (row : String) : Option Word :=
  if reserved.contains row then some (.keyword row)
  else if Script.isName row then some (.name row)
  else none

/-- A name or a reserved word at the beginning of a text, and the text after it.  With a quote after
it, it would belong to a string. -/
def nameAt? (text : List Char) : Option (Word × List Char) :=
  let rest := text.dropWhile continuesName
  if rest.head?.any isQuote then none
  else (Word.ofRow? (String.ofList (text.takeWhile continuesName))).map fun word => (word, rest)

/-! ## Integers -/

/-- An integer at the beginning of a text, and the text after it.  No letter and no point may
follow, nor may the first of several digits be zero unless all are. -/
def integerAt? (text : List Char) : Option (Word × List Char) :=
  let digits := text.takeWhile Char.isDigit
  let rest := text.dropWhile Char.isDigit
  if rest.head?.any fun c => continuesName c || c = '.' then none
  else if digits.head? = some '0' && digits.any fun c => c ≠ '0' then none
  else some (.integer (Numeral.valueOf digits), rest)

/-! ## Strings -/

/-- The character that an escape with one letter stands for. -/
def escaped? (letter : Char) : Option Char :=
  [('\\', '\\'), ('\'', '\''), ('"', '"'), ('a', '\x07'), ('b', '\x08'), ('f', '\x0c'), ('n', '\n'),
    ('r', '\r'), ('t', '\t'), ('v', '\x0b')].lookup letter

/-- The value of a hexadecimal digit. -/
def hexadecimal? (c : Char) : Option Nat :=
  (Numeral.digitValue? c).filter fun value => value < 16

/-- The character whose number has the given two hexadecimal digits. -/
def numbered? (high low : Char) : Option Char :=
  match hexadecimal? high, hexadecimal? low with
  | some high, some low => some (Char.ofNat (16 * high + low))
  | _, _ => none

/-- The characters of a string up to the quote that ends it, and the text after the quote. -/
def body? : List Char → Option (List Char × List Char)
  | [] => none
  | '"' :: rest => some ([], rest)
  | '\\' :: 'x' :: high :: low :: rest =>
      (numbered? high low).bind fun c => (body? rest).map (Prod.map (c :: ·) id)
  | '\\' :: letter :: rest =>
      (escaped? letter).bind fun c => (body? rest).map (Prod.map (c :: ·) id)
  | c :: rest =>
      if endsLine c || c = '\\' then none else (body? rest).map (Prod.map (c :: ·) id)

/-- A string at the beginning of a text whose first character is a quote, and the text after it.
Three quotes in a row would begin a string of several lines. -/
def textAt? : List Char → Option (Word × List Char)
  | '"' :: '"' :: '"' :: _ => none
  | '"' :: rest => (body? rest).map (Prod.map (fun value => .text (String.ofList value)) id)
  | _ => none

/-! ## Signs -/

/-- The operators and delimiters, longer ones before their beginnings. -/
def signs : List String :=
  ["**=", "//=", "<<=", ">>=", "...", "!=", "%=", "&=", "**", "*=", "+=", "-=", "->", "//", "/=",
    ":=", "<<", "<=", "==", ">=", ">>", "@=", "^=", "|=", "%", "&", "(", ")", "*", "+", ",", "-",
    ".", "/", ":", ";", "<", "=", ">", "@", "[", "]", "^", "\x7b", "|", "\x7d", "~"]

/-- A sign at the beginning of a text, and the text after it.  A point before a digit would begin a
number. -/
def signAt? (text : List Char) : Option (Word × List Char) :=
  if text.head? = some '.' && text.tail.head?.any Char.isDigit then none
  else
    (signs.find? fun sign => sign.toList.isPrefixOf text).map fun sign =>
      (.sign sign, text.drop sign.toList.length)

/-! ## First words -/

/-- The word at the beginning of a text, and the text after it. -/
def first? (text : List Char) : Option (Word × List Char) :=
  match text.head? with
  | none => none
  | some c =>
      if startsName c then nameAt? text
      else if c.isDigit then integerAt? text
      else if c = '"' then textAt? text
      else signAt? text

/-! ## What follows a word is shorter -/

/-- What is made of the first part of a result does not change the second. -/
theorem exists_eq_some_of_map {α β : Type} {result : Option (α × List Char)} {change : α → β}
    {value : β} {rest : List Char}
    (hresult : result.map (Prod.map change id) = some (value, rest)) :
    ∃ inner, result = some (inner, rest) := by
  obtain ⟨⟨inner, after⟩, hinner, heq⟩ := Option.map_eq_some_iff.1 hresult
  obtain ⟨-, rfl⟩ := Prod.mk.inj heq
  exact ⟨inner, hinner⟩

theorem length_of_body? {text value rest : List Char} (hbody : body? text = some (value, rest)) :
    rest.length < text.length := by
  induction text using body?.induct generalizing value with
  | case1 => simp [body?] at hbody
  | case2 after =>
      obtain ⟨-, rfl⟩ : [] = value ∧ after = rest := by simpa [body?] using hbody
      simp
  | case3 high low after ih =>
      rw [body?, Option.bind_eq_some_iff] at hbody
      obtain ⟨c, -, hbody⟩ := hbody
      obtain ⟨inner, hinner⟩ := exists_eq_some_of_map hbody
      have hshorter := ih hinner
      simp only [List.length_cons]
      omega
  | case4 letter after hnumber ih =>
      rw [body?, Option.bind_eq_some_iff] at hbody
      · obtain ⟨c, -, hbody⟩ := hbody
        obtain ⟨inner, hinner⟩ := exists_eq_some_of_map hbody
        have hshorter := ih hinner
        simp only [List.length_cons]
        omega
      · exact hnumber
  | case5 c after hquote hnumber hescape hends =>
      rw [body?, if_pos hends] at hbody
      · cases hbody
      all_goals assumption
  | case6 c after hquote hnumber hescape hends ih =>
      rw [body?, if_neg hends] at hbody
      · obtain ⟨inner, hinner⟩ := exists_eq_some_of_map hbody
        have hshorter := ih hinner
        simp only [List.length_cons]
        omega
      all_goals assumption

theorem length_of_textAt? {text rest : List Char} {word : Word}
    (htext : textAt? text = some (word, rest)) : rest.length < text.length := by
  unfold textAt? at htext
  split at htext
  · cases htext
  · obtain ⟨value, hvalue⟩ := exists_eq_some_of_map htext
    exact Nat.lt_succ_of_lt (length_of_body? hvalue)
  · cases htext

/-- After a first character that belongs to a run, what is left behind the run is shorter. -/
theorem length_dropWhile {belongs : Char → Bool} {text : List Char} {c : Char}
    (hhead : text.head? = some c) (hc : belongs c = true) :
    (text.dropWhile belongs).length < text.length := by
  cases text with
  | nil => simp at hhead
  | cons d rest =>
      obtain rfl : d = c := by simpa using hhead
      rw [List.dropWhile_cons_of_pos hc]
      exact Nat.lt_succ_of_le (List.dropWhile_sublist _).length_le

theorem length_of_signAt? {text rest : List Char} {word : Word}
    (hsign : signAt? text = some (word, rest)) : rest.length < text.length := by
  rw [signAt?] at hsign
  split at hsign
  · cases hsign
  · obtain ⟨sign, hfound, heq⟩ := Option.map_eq_some_iff.1 hsign
    obtain ⟨-, rfl⟩ := Prod.mk.inj heq
    have hpositive : ∀ sign ∈ signs, 0 < sign.toList.length := by decide +kernel
    have hlength := hpositive sign (List.mem_of_find?_eq_some hfound)
    have hwithin := List.find?_some hfound
    have hwithin := (List.isPrefixOf_iff_prefix.1 hwithin).length_le
    rw [List.length_drop]
    omega

theorem length_of_first? {text rest : List Char} {word : Word}
    (hfirst : first? text = some (word, rest)) : rest.length < text.length := by
  rw [first?] at hfirst
  cases hhead : text.head? with
  | none => simp [hhead] at hfirst
  | some c =>
      simp only [hhead] at hfirst
      split at hfirst
      · rename_i hstarts
        rw [nameAt?] at hfirst
        split at hfirst
        · cases hfirst
        · obtain ⟨name, -, heq⟩ := Option.map_eq_some_iff.1 hfirst
          obtain ⟨-, rfl⟩ := Prod.mk.inj heq
          exact length_dropWhile hhead (by simp [continuesName, hstarts])
      split at hfirst
      · rename_i hdigit
        simp only [integerAt?] at hfirst
        split at hfirst
        · cases hfirst
        split at hfirst
        · cases hfirst
        · obtain ⟨-, rfl⟩ := Prod.mk.inj (Option.some.inj hfirst)
          exact length_dropWhile hhead hdigit
      split at hfirst
      · exact length_of_textAt? hfirst
      · exact length_of_signAt? hfirst

/-! ## Rows of words -/

/-- Whether a character is a blank inside a line. -/
def isBlank (c : Char) : Bool := c = ' ' || c = '\t' || c = '\x0c'

/-- A character with a property that no blank, no end of a line and no sign of a remark has is none
of these. -/
theorem begins_word_of {property : Char → Bool} {c : Char} (hc : property c = true)
    (hnone : [' ', '\t', '\x0c', '\n', '\r', '#'].any property = false) :
    isBlank c = false ∧ endsLine c = false ∧ c ≠ '#' := by
  have hne : c ∉ [' ', '\t', '\x0c', '\n', '\r', '#'] := fun hmem =>
    List.any_eq_false.1 hnone c hmem hc
  simp only [List.mem_cons, List.not_mem_nil, or_false, not_or] at hne
  obtain ⟨hspace, htab, hpage, hfeed, hreturn, hremark⟩ := hne
  exact ⟨by simp [isBlank, hspace, htab, hpage], by simp [endsLine, hfeed, hreturn], hremark⟩

/-- The words of a line. -/
def words? (line : List Char) : Option (List Word) :=
  match line with
  | [] => some []
  | c :: rest =>
      if isBlank c then words? rest
      else if c = '#' then some []
      else
        match _ : first? (c :: rest) with
        | none => none
        | some (word, after) => (words? after).map (word :: ·)
termination_by line.length
decreasing_by
  · exact Nat.lt_succ_self _
  · exact length_of_first? ‹_›

@[simp] theorem words?_nil : words? [] = some [] := by
  rw [words?]

@[simp] theorem words?_blank (line : List Char) : words? (' ' :: line) = words? line := by
  rw [words?, if_pos (by decide)]

theorem words?_of_first? {line rest : List Char} {word : Word} {c : Char}
    (hblank : isBlank c = false) (hremark : c ≠ '#')
    (hfirst : first? (c :: line) = some (word, rest)) :
    words? (c :: line) = (words? rest).map (word :: ·) := by
  rw [words?, hblank, if_neg Bool.false_ne_true, if_neg hremark]
  split
  · rename_i hnone
    rw [hfirst] at hnone
    cases hnone
  · rename_i hsome
    rw [hfirst] at hsome
    obtain ⟨rfl, rfl⟩ := Prod.mk.inj (Option.some.inj hsome)
    rfl

theorem words?_eq_none_of_first? {line : List Char} {c : Char} (hblank : isBlank c = false)
    (hremark : c ≠ '#') (hfirst : first? (c :: line) = none) : words? (c :: line) = none := by
  rw [words?, hblank, if_neg Bool.false_ne_true, if_neg hremark]
  split
  · rfl
  · rename_i hsome
    rw [hfirst] at hsome
    cases hsome

end TinyC.ScriptLanguage
