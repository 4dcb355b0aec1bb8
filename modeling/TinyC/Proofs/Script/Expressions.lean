import TinyC.Proofs.Script.Renaming
import TinyC.Proofs.Script.Words
import TinyC.Proofs.ScriptLanguage.Unambiguity

/-!
# Expressions read back

The text that stands for an expression in a script is read, by the rules of the
script's language, as the tree of that expression and as no other: operations and
calls have the parts that they had, a division is a call of the function that
truncates, and names are those that renaming gave, in normal form.  It is not
read at all if one of the names does not have the shape that names have in the
script's language; the shape that they have in programs allows more.

## Strategy

An expression is read as a factor, which can stand as an operand anywhere, before
any rest (`reads_words`).  That there is no other reading is a property of the
language alone.
-/

namespace TinyC

open ScriptLanguage Lexical

/-! ## Trees of expressions -/

namespace ScriptLanguage.Tree

/-- The tree of an integer.  A negative one is the minus sign of its size. -/
def ofInt : Int → Tree
  | .ofNat value => .integer value
  | .negSucc value => .signed .minus (.integer (value + 1))

mutual

/-- The tree that stands for an expression whose names are spelled in the given way. -/
def ofExpr (spell : String → String) : Expr → Tree
  | .number value => ofInt value.toInt
  | .name identifier => .name (spell identifier)
  | .string value => .text value
  | .binary .add left right => .binary .add (ofExpr spell left) (ofExpr spell right)
  | .binary .sub left right => .binary .sub (ofExpr spell left) (ofExpr spell right)
  | .binary .mul left right => .binary .mul (ofExpr spell left) (ofExpr spell right)
  | .binary .div left right =>
      .call (.name Script.divisionName) [ofExpr spell left, ofExpr spell right]
  | .call function arguments => .call (.name (spell function)) (ofExprs spell arguments)

/-- The trees that stand for the expressions of a list. -/
def ofExprs (spell : String → String) : List Expr → List Tree
  | [] => []
  | first :: rest => ofExpr spell first :: ofExprs spell rest

end

mutual

theorem ofExpr_congr {spell spell₂ : String → String} (expression : Expr)
    (hspell : ∀ name ∈ expression.names, spell name = spell₂ name) :
    ofExpr spell expression = ofExpr spell₂ expression := by
  cases expression with
  | number value => rfl
  | name identifier =>
      rw [ofExpr, ofExpr, hspell identifier (by simp [Expr.names])]
  | string value => rfl
  | binary operator left right =>
      rw [Expr.names, List.forall_mem_append] at hspell
      have hleft := ofExpr_congr left hspell.1
      have hright := ofExpr_congr right hspell.2
      cases operator <;> simp only [ofExpr, hleft, hright]
  | call function arguments =>
      rw [Expr.names, List.forall_mem_cons] at hspell
      rw [ofExpr, ofExpr, hspell.1, ofExprs_congr arguments hspell.2]

theorem ofExprs_congr {spell spell₂ : String → String} (expressions : List Expr)
    (hspell : ∀ name ∈ Expr.namesOfAll expressions, spell name = spell₂ name) :
    ofExprs spell expressions = ofExprs spell₂ expressions := by
  cases expressions with
  | nil => rfl
  | cons first rest =>
      rw [Expr.namesOfAll, List.forall_mem_append] at hspell
      rw [ofExprs, ofExprs, ofExpr_congr first hspell.1, ofExprs_congr rest hspell.2]

end

end ScriptLanguage.Tree

namespace Script

/-! ## Names -/

theorem isName_nameOf (identifier : String) : isName (nameOf identifier) = isName identifier := by
  cases htaken : isTaken identifier with
  | true =>
      have hshape : ∀ taken ∈ keywords ++ reliedOn,
          isName (taken ++ "_") = true ∧ isName taken = true := by
        decide +kernel
      obtain ⟨hlong, hshort⟩ := hshape identifier (mem_of_isTaken htaken)
      rw [nameOf_of_isTaken htaken, hlong, hshort]
  | false => rw [nameOf_of_not_isTaken htaken]

theorem startsName_of_startsIdentifier {c : Char} (hc : Token.startsIdentifier c = true) :
    startsName c = true := by
  rw [Token.startsIdentifier, Unicode.isAlphabetic] at hc
  split at hc
  · simpa [startsName, or_assoc] using Or.inl hc
  · rename_i hhigh
    simp [startsName, UInt32.not_lt.1 hhigh]

theorem continuesName_of_continuesIdentifier {c : Char}
    (hc : Token.continuesIdentifier c = true) : continuesName c = true := by
  rw [Token.continuesIdentifier, Unicode.isAlphanumeric, Bool.or_eq_true, Bool.or_eq_true] at hc
  have hstarts : Unicode.isAlphabetic c = true ∨ c = '_' → continuesName c = true := fun hc =>
    Bool.or_eq_true_iff.2 (.inl (startsName_of_startsIdentifier (by
      simpa [Token.startsIdentifier] using hc)))
  obtain (hletter | hnumber) | hunderscore := hc
  · exact hstarts (.inl hletter)
  · rw [Unicode.isNumeric] at hnumber
    split at hnumber
    · simp [continuesName, hnumber]
    · rename_i hhigh
      simp [continuesName, startsName, UInt32.not_lt.1 hhigh]
  · exact hstarts (.inr (by simpa using hunderscore))

/-- What an identifier is renamed to is no reserved word. -/
theorem not_reserved_nameOf {identifier : String} (hne : identifier ≠ "return") :
    nameOf identifier ∉ reserved := by
  have hreserved : ∀ word ∈ reserved, word = "return" ∨ isTaken word = true := by decide +kernel
  intro hmem
  obtain hreturn | htaken := hreserved _ hmem
  · cases htaken : isTaken identifier with
    | true =>
        have hall : ∀ taken ∈ keywords ++ reliedOn, taken ++ "_" ≠ "return" := by decide +kernel
        rw [nameOf_of_isTaken htaken] at hreturn
        exact hall identifier (mem_of_isTaken htaken) hreturn
    | false => exact hne ((nameOf_of_not_isTaken htaken).symm.trans hreturn)
  · rw [isTaken_nameOf] at htaken
    cases htaken

theorem isRow_nameOf {identifier : String} (hname : IsName identifier) :
    IsRow (nameOf identifier) := by
  refine ⟨?_, not_reserved_nameOf hname.ne_return⟩
  cases htext : identifier.toList with
  | nil => simpa [htext] using hname.starts
  | cons first others =>
      have hfirst := startsName_of_startsIdentifier (by simpa [htext] using hname.starts)
      have hothers : ∀ c ∈ others, continuesName c = true := fun c hc =>
        continuesName_of_continuesIdentifier
          (List.all_eq_true.1 (by simpa [htext] using hname.continues) c hc)
      rw [nameOf]
      split
      · refine ⟨first, others ++ ['_'], by rw [String.toList_append, htext]; rfl, hfirst, ?_⟩
        exact List.forall_mem_append.2 ⟨hothers, List.forall_mem_singleton.2 (by decide)⟩
      · exact ⟨first, others, htext, hfirst, hothers⟩

/-- The names in the counterpart of an expression, the name of the division apart. -/
theorem eq_or_exists_of_mem_names {expression : TinyC.Expr} {name : String}
    (hname : name ∈ (Expr.ofExpr expression).names) :
    name = divisionName ∨ ∃ identifier ∈ expression.names, name = nameOf identifier := by
  by_cases hdivision : name = divisionName
  · exact .inl hdivision
  · have hown : name ∈ own (Expr.ofExpr expression).names :=
      List.mem_filter.2 ⟨hname, by simpa using hdivision⟩
    rw [own_names_ofExpr] at hown
    obtain ⟨identifier, hmem, rfl⟩ := List.mem_map.1 hown
    exact .inr ⟨identifier, hmem, rfl⟩

theorem isRow_of_mem_names {expression : TinyC.Expr}
    (hnames : ∀ name ∈ expression.names, IsName name) :
    ∀ name ∈ (Expr.ofExpr expression).names, IsRow name := by
  intro name hname
  obtain rfl | ⟨identifier, hmem, rfl⟩ := eq_or_exists_of_mem_names hname
  · exact ⟨⟨_, _, rfl, by decide, List.all_eq_true.1 (by decide)⟩, by decide⟩
  · exact isRow_nameOf (hnames identifier hmem)

theorem all_isName_names (expression : TinyC.Expr) :
    (Expr.ofExpr expression).names.all isName = true ↔
      ∀ name ∈ expression.names, isName name = true := by
  rw [List.all_eq_true]
  constructor
  · intro hall name hname
    have hmem : nameOf name ∈ own (Expr.ofExpr expression).names := by
      rw [own_names_ofExpr]
      exact List.mem_map_of_mem hname
    rw [← isName_nameOf]
    exact hall _ (List.mem_filter.1 hmem).1
  · intro hall name hname
    obtain rfl | ⟨identifier, hmem, rfl⟩ := eq_or_exists_of_mem_names hname
    · decide
    · rw [isName_nameOf, hall identifier hmem]

end Script

/-! ## Readings -/

namespace Script

theorem reads_integer (value : Int) (rest : List ScriptLanguage.Word) :
    Reads .factor ((Expr.integer value).words ++ rest) (Tree.ofInt value) rest := by
  cases value with
  | ofNat value => exact Reads.factor_of_atom .integer
  | negSucc value => exact .signed rfl (Reads.factor_of_atom .integer)

/-- The name as which an identifier is read. -/
def spelling (identifier : String) : String := normalName (nameOf identifier)

theorem normalName_divisionName : normalName divisionName = divisionName :=
  Unicode.NormalForm.ofText_of_ascii (by decide)

theorem reads_arithmetic {operator : Operator} {sign : ScriptLanguage.Operator} {left right : Expr}
    {first second : Tree} (hsign : sign.word = .sign operator.sign)
    (hleft : ∀ rest, Reads .factor (left.words ++ rest) first rest)
    (hright : ∀ rest, Reads .factor (right.words ++ rest) second rest)
    (rest : List ScriptLanguage.Word) :
    Reads .factor ((Expr.arithmetic operator left right).words ++ rest)
      (.binary sign first second) rest := by
  have hwords : (Expr.arithmetic operator left right).words ++ rest =
      .sign "(" :: (left.words ++ sign.word :: (right.words ++ .sign ")" :: rest)) := by
    simp [Expr.words, hsign]
  rw [hwords]
  exact Reads.factor_of_operation sign (hleft _) (hright _)

theorem reads_call {name : String} {arguments : List Expr} {trees : List Tree}
    (harguments : ∀ rest, Reads .arguments (Expr.argumentWords arguments ++ .sign ")" :: rest) trees
      (.sign ")" :: rest)) (rest : List ScriptLanguage.Word) :
    Reads .factor ((Expr.call name arguments).words ++ rest)
      (.call (.name (normalName name)) trees) rest := by
  have hwords : (Expr.call name arguments).words ++ rest =
      .name name :: .sign "(" :: (Expr.argumentWords arguments ++ .sign ")" :: rest) := by
    simp [Expr.words]
  rw [hwords]
  exact Reads.factor_of_call name (harguments rest)

mutual

theorem reads_words (expression : TinyC.Expr) (rest : List ScriptLanguage.Word) :
    Reads .factor ((Expr.ofExpr expression).words ++ rest) (Tree.ofExpr spelling expression)
      rest := by
  cases expression with
  | number value => exact reads_integer value.toInt rest
  | name identifier => exact Reads.factor_of_atom .name
  | string value => exact Reads.factor_of_atom (.text .lastText)
  | binary operator left right =>
      cases operator with
      | add | sub | mul => exact reads_arithmetic rfl (reads_words left) (reads_words right) rest
      | div =>
          rw [Tree.ofExpr, ← normalName_divisionName]
          refine reads_call (fun rest => ?_) rest
          simp only [Expr.argumentWords, Expr.otherWords, List.append_nil, List.append_assoc,
            List.cons_append]
          exact .arguments (.item (reads_words left _).expression_of_factor)
            (.moreOthers (.item (reads_words right _).expression_of_factor) .noOther)
  | call function arguments => exact reads_call (reads_argumentWords arguments) rest

theorem reads_argumentWords (expressions : List TinyC.Expr) (rest : List ScriptLanguage.Word) :
    Reads .arguments (Expr.argumentWords (Expr.ofExprs expressions) ++ .sign ")" :: rest)
      (Tree.ofExprs spelling expressions) (.sign ")" :: rest) := by
  cases expressions with
  | nil => exact .noArgument
  | cons first others =>
      rw [Expr.ofExprs, Expr.argumentWords, List.append_assoc]
      exact .arguments (.item (reads_words first _).expression_of_factor)
        (reads_otherWords others _)

theorem reads_otherWords (expressions : List TinyC.Expr) (rest : List ScriptLanguage.Word) :
    Reads (.others .argument) (Expr.otherWords (Expr.ofExprs expressions) ++ rest)
      (Tree.ofExprs spelling expressions) rest := by
  cases expressions with
  | nil => exact .noOther
  | cons first others =>
      rw [Expr.ofExprs, Expr.otherWords, List.cons_append, List.append_assoc]
      exact .moreOthers (.item (reads_words first _).expression_of_factor)
        (reads_otherWords others _)

end

theorem reads_expression (expression : TinyC.Expr) :
    Reads .expression (Expr.ofExpr expression).words (Tree.ofExpr spelling expression) [] := by
  have hreads := (reads_words expression []).expression_of_factor
  rwa [List.append_nil] at hreads

/-! ## The text of an expression -/

theorem words?_ofExpr {expression : TinyC.Expr} (hnames : ∀ name ∈ expression.names, IsName name) :
    words? (Expr.ofExpr expression).code.toList =
      if ∀ name ∈ expression.names, isName name = true then
        some (Expr.ofExpr expression).words
      else none := by
  have hend : IsSeparated [] := by simp [IsSeparated]
  have hwords := words?_code (Expr.ofExpr expression) (isRow_of_mem_names hnames) hend
  simp only [all_isName_names, words?_nil] at hwords
  simpa using hwords

theorem isReading_ofExpr {expression : TinyC.Expr}
    (hnames : ∀ name ∈ expression.names, IsName name) {tree : Tree} :
    IsReading (Expr.ofExpr expression).code tree ↔
      (∀ name ∈ expression.names, isName name = true) ∧ tree = Tree.ofExpr spelling expression := by
  have hwords := words?_ofExpr hnames
  have hreads := reads_expression expression
  constructor
  · rintro hreading
    obtain ⟨words, hfound, -⟩ := id hreading
    by_cases hshape : ∀ name ∈ expression.names, isName name = true
    · rw [if_pos hshape] at hwords
      exact ⟨hshape, hreading.unique ⟨_, hwords, hreads⟩⟩
    · rw [hwords, if_neg hshape] at hfound
      cases hfound
  · rintro ⟨hshape, rfl⟩
    rw [if_pos hshape] at hwords
    exact ⟨_, hwords, hreads⟩

theorem spelling_of_normal {identifier : String} (hnormal : normalName identifier = identifier) :
    spelling identifier = nameOf identifier := normalName_nameOf hnormal

/-- The text of an expression has one reading if all its names have the shape of names in scripts,
and none if one of them has not.  The reading is the tree of the expression with names spelled as
renaming and normal forms make them.  Where the names are in normal form already, it is what
renaming alone makes of them, and no function that is called has the name of the division. -/
theorem code_reads_back (expression : TinyC.Expr)
    (hnames : ∀ name ∈ expression.names, IsName name) :
    (∀ tree, IsReading (Expr.ofExpr expression).code tree ↔
      (∀ name ∈ expression.names, isName name = true) ∧
        tree = Tree.ofExpr spelling expression) ∧
      ((∀ name ∈ expression.names, normalName name = name) →
        Tree.ofExpr spelling expression = Tree.ofExpr nameOf expression ∧
        ∀ name ∈ expression.names, nameOf name ≠ divisionName) := by
  refine ⟨fun tree => isReading_ofExpr hnames, fun hnormal => ⟨?_, ?_⟩⟩
  · exact Tree.ofExpr_congr expression fun name hname => spelling_of_normal (hnormal name hname)
  · exact fun name _ => nameOf_ne_divisionName name

/-- A division of the result of a call, in which there are a name that is taken, a negative number
and a quote. -/
def division : TinyC.Expr :=
  .binary .div (.call "if" [.number (-3), .string "a\"b"]) (.name "x")

theorem code_reads_back_division :
    IsReading "_c_div(if_(-3, \"a\\\"b\"), x)"
      (.call (.name "_c_div")
        [.call (.name "if_") [.signed .minus (.integer 3), .text "a\"b"], .name "x"]) ∧
      nameOf "if" ≠ divisionName := by
  obtain ⟨hread, hspelling⟩ := code_reads_back division (by decide)
  have hascii : ∀ name ∈ division.names, name.toList.all Unicode.NormalForm.isAscii = true := by
    decide
  obtain ⟨htree, hdivision⟩ := hspelling fun name hname =>
    Unicode.NormalForm.ofText_of_ascii (hascii name hname)
  have hcode : "_c_div(if_(-3, \"a\\\"b\"), x)" = (Expr.ofExpr division).code := by decide +kernel
  rw [hcode]
  exact ⟨(hread _).2 ⟨by decide, htree.symm⟩, hdivision "if" (by decide)⟩

/-- An identifier of programs that scripts cannot use as a name is emitted all the same, and then
the text is no expression of the script's language. -/
theorem not_isReading_superscript :
    IsName "x²" ∧ ∀ tree, ¬ IsReading (Expr.ofExpr (.name "x²")).code tree := by
  have hwords : words? (Expr.ofExpr (.name "x²")).code.toList = none := by decide +kernel
  refine ⟨by decide +kernel, ?_⟩
  rintro tree ⟨words, hfound, -⟩
  rw [hwords] at hfound
  cases hfound

end Script

end TinyC
