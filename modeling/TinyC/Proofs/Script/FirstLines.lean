import TinyC.Proofs.ScriptLanguage.Execution
import TinyC.Script

/-!
# The first lines of a script

The lines with which every script begins are read as two imports and the
definitions of two functions, before whatever comes after them without
indentation.  The second of these functions, called with two integers, returns
their quotient rounded towards zero.
-/

namespace TinyC.Script

open ScriptLanguage

/-! ## Their statements -/

/-- A call of a function of a library with one name. -/
def libraryCall (library function argument : String) : Tree :=
  .call (.member (.name library) function) [.name argument]

/-- What tells whether a name stands for a negative number. -/
def signTest (name : String) : Tree := .compared (.name name) [(.less, .integer 0)]

/-- The body of the function that prints. -/
def printBody : List Statement :=
  [.assign "text" (.binary .mod (.name "fmt") (.name "args")),
    .evaluate (.call (.member (.member (.name "_sys") "stdout") "write") [.name "text"]),
    .returns (some (libraryCall "_builtins" "len" "text"))]

/-- The quotient of the sizes of what is divided. -/
def sizeQuotient : Tree :=
  .binary .floorDiv (libraryCall "_builtins" "abs" "lhs") (libraryCall "_builtins" "abs" "rhs")

/-- The quotient, negated if the signs of what is divided differ. -/
def signedQuotient : Tree :=
  .conditional (.name "quotient") (.compared (signTest "lhs") [(.equal, signTest "rhs")])
    (.signed .minus (.name "quotient"))

/-- The body of the function that divides. -/
def divisionBody : List Statement :=
  [.assign "quotient" sizeQuotient, .returns (some signedQuotient)]

/-- The statements of the first lines. -/
def firstStatements : List Statement :=
  [.importAs "builtins" "_builtins",
    .importAs "sys" "_sys",
    .define "printf" ["fmt"] (some "args") printBody,
    .define divisionName ["lhs", "rhs"] none divisionBody]

/-! ## How they are read -/

/-- The rows of the function that prints. -/
def printRows : List ScriptLanguage.Row :=
  [⟨4, [.name "text", .sign "=", .name "fmt", .sign "%", .name "args"]⟩,
    ⟨4, [.name "_sys", .sign ".", .name "stdout", .sign ".", .name "write", .sign "(", .name "text",
      .sign ")"]⟩,
    ⟨4, [.keyword "return", .name "_builtins", .sign ".", .name "len", .sign "(", .name "text",
      .sign ")"]⟩]

/-- The rows of the function that divides. -/
def divisionRows : List ScriptLanguage.Row :=
  [⟨4, [.name "quotient", .sign "=", .name "_builtins", .sign ".", .name "abs", .sign "(",
      .name "lhs", .sign ")", .sign "//", .name "_builtins", .sign ".", .name "abs", .sign "(",
      .name "rhs", .sign ")"]⟩,
    ⟨4, [.keyword "return", .name "quotient", .keyword "if", .sign "(", .name "lhs", .sign "<",
      .integer 0, .sign ")", .sign "==", .sign "(", .name "rhs", .sign "<", .integer 0, .sign ")",
      .keyword "else", .sign "-", .name "quotient"]⟩]

/-- The rows of the first lines. -/
def firstRows : List ScriptLanguage.Row :=
  [⟨0, [.keyword "import", .name "builtins", .keyword "as", .name "_builtins"]⟩,
    ⟨0, [.keyword "import", .name "sys", .keyword "as", .name "_sys"]⟩,
    ⟨0, [.keyword "def", .name "printf", .sign "(", .name "fmt", .sign ",", .sign "*", .name "args",
      .sign ")", .sign ":"]⟩] ++ printRows ++
  [⟨0, [.keyword "def", .name "_c_div", .sign "(", .name "lhs", .sign ",", .name "rhs", .sign ")",
      .sign ":"]⟩] ++ divisionRows

theorem rows?_firstLines : rows? (firstLines.map String.toList) = some firstRows := by
  decide +kernel

theorem reads_libraryCall {library function argument : String} {rest : List ScriptLanguage.Word} :
    Reads .factor (.name library :: .sign "." :: .name function :: .sign "(" :: .name argument ::
      .sign ")" :: rest)
      (.call (.member (.name (normalName library)) (normalName function))
        [.name (normalName argument)]) rest :=
  .factor (.primary .name (.member (.call
    (.arguments (.item (Reads.expression_of_factor (Reads.factor_of_atom .name))) .noOther)
    .noTrailer)))

theorem reads_signTest (name : String) {rest : List ScriptLanguage.Word} :
    Reads .factor (.sign "(" :: .name name :: .sign "<" :: .integer 0 :: .sign ")" :: rest)
      (signTest (normalName name)) rest := by
  have hname : Reads (.layer .sum) (.name name :: .sign "<" :: .integer 0 :: .sign ")" :: rest)
      (.name (normalName name)) (.sign "<" :: .integer 0 :: .sign ")" :: rest) :=
    Reads.sum_of_product (Reads.product_of_factor (Reads.factor_of_atom .name))
  have hzero : Reads (.layer .sum) (.integer 0 :: .sign ")" :: rest) (.integer 0)
      (.sign ")" :: rest) :=
    Reads.sum_of_product (Reads.product_of_factor (Reads.factor_of_atom .integer))
  exact Reads.factor_of_atom
    (.group (.expression (.comparison hname (.moreComparisons rfl hzero .noComparison))))

theorem readsBlock_printRows (rows : List ScriptLanguage.Row) :
    ReadsBlock 4 (printRows ++ rows) printBody rows := by
  have hformat : Reads .expression [.name "fmt", .sign "%", .name "args"]
      (.binary .mod (.name "fmt") (.name "args")) [] :=
    Reads.expression_of_sum (Reads.sum_of_product (.layer
      (.multiplicand (Reads.factor_of_atom .name))
      (.moreOperations rfl rfl (.multiplicand (Reads.factor_of_atom .name)) .noOperation)))
  have hwrite : Reads .factor [.name "_sys", .sign ".", .name "stdout", .sign ".", .name "write",
      .sign "(", .name "text", .sign ")"]
      (.call (.member (.member (.name "_sys") "stdout") "write") [.name "text"]) [] :=
    .factor (.primary .name (.member (.member (.call
      (.arguments (.item (Reads.expression_of_factor (Reads.factor_of_atom .name))) .noOther)
      .noTrailer))))
  exact .line (.assign rfl hformat) (.line (.evaluate hwrite.expression_of_factor)
    (.line (.returnsValue reads_libraryCall.expression_of_factor) .nil))

theorem readsBlock_divisionRows (rows : List ScriptLanguage.Row) :
    ReadsBlock 4 (divisionRows ++ rows) divisionBody rows := by
  have hquotient : Reads .expression [.name "_builtins", .sign ".", .name "abs", .sign "(",
      .name "lhs", .sign ")", .sign "//", .name "_builtins", .sign ".", .name "abs", .sign "(",
      .name "rhs", .sign ")"]
      sizeQuotient [] :=
    Reads.expression_of_sum (Reads.sum_of_product (.layer (.multiplicand reads_libraryCall)
      (.moreOperations rfl rfl (.multiplicand reads_libraryCall) .noOperation)))
  have hvalue {rest : List ScriptLanguage.Word} :
      Reads .comparison (.name "quotient" :: rest) (.name "quotient") rest :=
    .comparison (Reads.sum_of_product (Reads.product_of_factor (Reads.factor_of_atom .name)))
      .noComparison
  have htests : Reads .comparison [.sign "(", .name "lhs", .sign "<", .integer 0, .sign ")",
      .sign "==", .sign "(", .name "rhs", .sign "<", .integer 0, .sign ")", .keyword "else",
      .sign "-", .name "quotient"]
      (.compared (signTest "lhs") [(.equal, signTest "rhs")])
      [.keyword "else", .sign "-", .name "quotient"] :=
    .comparison (Reads.sum_of_product (Reads.product_of_factor (reads_signTest "lhs")))
      (.moreComparisons (rfl : Comparison.equal.word = _)
        (Reads.sum_of_product (Reads.product_of_factor (reads_signTest "rhs"))) .noComparison)
  have hnegated : Reads .expression [.sign "-", .name "quotient"]
      (.signed .minus (.name "quotient")) [] :=
    Reads.expression_of_factor (.signed rfl (Reads.factor_of_atom .name))
  exact .line (.assign rfl hquotient)
    (.line (.returnsValue (.conditional hvalue htests hnegated)) .nil)

/-- The first lines are read as their statements before whatever is not indented. -/
theorem readsBlock_firstRows {rows rest : List ScriptLanguage.Row} {statements : List Statement}
    (hrows : ∀ row ∈ rows.head?, row.indentation ≤ 0)
    (hreads : ReadsBlock 0 rows statements rest) :
    ReadsBlock 0 (firstRows ++ rows) (firstStatements ++ statements) rest := by
  refine .line (.importAs rfl) (.line (.importAs rfl)
    (.define rfl rfl (by decide) (by decide) (by decide) (readsBlock_printRows _) ?_
      (.define rfl rfl (by decide) (by decide) (by decide) (readsBlock_divisionRows _) hrows
        hreads)))
  rintro _ ⟨⟩
  exact Nat.le_refl 0

/-! ## Division -/

/-- The quotient rounded towards zero, from that of the sizes and a comparison of the signs. -/
theorem tdiv_eq_ite (left right : Int) :
    left.tdiv right =
      if decide (left < 0) = decide (right < 0) then (left.natAbs : Int).fdiv right.natAbs
      else -(left.natAbs : Int).fdiv right.natAbs := by
  have hsizes : (left.natAbs : Int).fdiv right.natAbs = (left.natAbs : Int).tdiv right.natAbs := by
    rw [Int.fdiv_eq_ediv_of_nonneg _ (Int.natCast_nonneg _),
      Int.tdiv_eq_ediv_of_nonneg (Int.natCast_nonneg _)]
  have hsize (value : Int) : (value.natAbs : Int) = if value < 0 then -value else value := by
    split <;> omega
  rw [hsizes, hsize left, hsize right]
  by_cases hleft : left < 0 <;> by_cases hright : right < 0 <;> simp [hleft, hright]

section

variable {globals : Bindings} {nesting : Nat} {scope : ScriptLanguage.Scope}
  {left right : Int}

theorem value?_size {name : String} {value : Int} (hcall : scope.call = call globals nesting)
    (hlibrary : scope.valueOf "_builtins" = some (.library "builtins"))
    (hname : scope.valueOf name = some (.integer value)) :
    (libraryCall "_builtins" "abs" name).value? scope = some (.integer value.natAbs) := by
  simp [libraryCall, Tree.value?, Tree.values?, hlibrary, hname, hcall, call,
    ScriptLanguage.Value.member?, ScriptLanguage.Value.count?]

theorem value?_signTest {name : String} {value : Int}
    (hname : scope.valueOf name = some (.integer value)) :
    (signTest name).value? scope = some (.truth (value < 0)) := by
  by_cases hvalue : value < 0 <;>
    simp [signTest, Tree.value?, Tree.holds?, hname, ScriptLanguage.Value.count?,
      Comparison.holds, hvalue]

theorem value?_sizeQuotient (hcall : scope.call = call globals nesting)
    (hlibrary : scope.valueOf "_builtins" = some (.library "builtins"))
    (hleft : scope.valueOf "lhs" = some (.integer left))
    (hright : scope.valueOf "rhs" = some (.integer right)) (hne : right ≠ 0) :
    sizeQuotient.value? scope = some (.integer ((left.natAbs : Int).fdiv right.natAbs)) := by
  rw [sizeQuotient, Tree.value?, value?_size hcall hlibrary hleft,
    value?_size hcall hlibrary hright]
  simp [ScriptLanguage.Value.count?, ScriptLanguage.Operator.result?, hne]

theorem value?_signedQuotient {quotient : Int}
    (hquotient : scope.valueOf "quotient" = some (.integer quotient))
    (hleft : scope.valueOf "lhs" = some (.integer left))
    (hright : scope.valueOf "rhs" = some (.integer right)) :
    signedQuotient.value? scope =
      some (.integer (if decide (left < 0) = decide (right < 0) then quotient else -quotient)) := by
  have htests : (Tree.compared (signTest "lhs") [(.equal, signTest "rhs")]).value? scope =
      some (.truth (decide (left < 0) = decide (right < 0))) := by
    rw [Tree.value?, value?_signTest hleft]
    simp only [Option.bind_some, Tree.holds?, value?_signTest hright, ScriptLanguage.Value.count?,
      Comparison.holds]
    by_cases hleft : left < 0 <;> by_cases hright : right < 0 <;> simp [hleft, hright]
  rw [signedQuotient, Tree.value?, htests]
  split <;>
    simp_all [Tree.value?, ScriptLanguage.Value.isTrue, ScriptLanguage.Value.count?, Sign.apply]

/-- What is known in the body of the function that divides. -/
def divisionScope (globals : Bindings) (nesting : Nat)
    (locals : Bindings) : ScriptLanguage.Scope :=
  bodyScope globals nesting ["lhs", "rhs", "quotient"] locals

theorem valueOf_divisionScope (hlibrary : globals.lookup "_builtins" = some (.library "builtins"))
    (locals : Bindings) :
    (divisionScope globals nesting locals).valueOf "_builtins" = some (.library "builtins") := by
  show resolve globals ["lhs", "rhs", "quotient"] locals "_builtins" = some (.library "builtins")
  rw [resolve, if_neg (by decide), hlibrary]

/-- The function that divides rounds towards zero. -/
theorem call_divisionBody (hlibrary : globals.lookup "_builtins" = some (.library "builtins"))
    (hne : right ≠ 0) :
    call globals (nesting + 1) (.function ["lhs", "rhs"] none divisionBody)
      [.integer left, .integer right] = some (.integer (left.tdiv right)) := by
  let parameters : Bindings := [("lhs", .integer left), ("rhs", .integer right)]
  have hsize : sizeQuotient.value? (divisionScope globals nesting parameters) =
      some (.integer ((left.natAbs : Int).fdiv right.natAbs)) :=
    value?_sizeQuotient rfl (valueOf_divisionScope hlibrary parameters) rfl rfl hne
  have hsigned (quotient : Int) : signedQuotient.value?
      (divisionScope globals nesting (("quotient", .integer quotient) :: parameters)) =
        some (.integer
          (if decide (left < 0) = decide (right < 0) then quotient else -quotient)) :=
    value?_signedQuotient rfl rfl rfl
  calc call globals (nesting + 1) (.function ["lhs", "rhs"] none divisionBody)
        [.integer left, .integer right]
      = (sizeQuotient.value? (divisionScope globals nesting parameters)).bind fun quotient =>
          signedQuotient.value?
            (divisionScope globals nesting (("quotient", quotient) :: parameters)) :=
        call_function globals nesting divisionBody rfl
    _ = some (.integer (left.tdiv right)) := by
        rw [hsize, Option.bind_some, hsigned, tdiv_eq_ite]

end

end TinyC.Script
