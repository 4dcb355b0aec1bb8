import TinyC.Proofs.Numeral
import TinyC.Proofs.SourceText

/-!
# Source text follows the grammar

Tokens that are the words of a program form that program, whatever their
offsets, if its numbers are not negative.  The nesting of an expression stays
below its height: parentheses are written around operands only, and an operand
is lower than the whole.

## Strategy

Each tree has a tightest phrase that its words form without parentheses
(`Expr.phrase`).  Where the grammar asks for a tighter one, `needsParensLeft` or
`needsParensRight` holds, and the parentheses give a primary.
-/

namespace TinyC

namespace Grammar

/-- The tokens are the given words, at any offsets. -/
def IsWritten (tokens : List Token) (words : List Word) : Prop := tokens.map Token.word = words

theorem IsWritten.exists_append {tokens : List Token} {before after : List Word}
    (hwritten : IsWritten tokens (before ++ after)) :
    ∃ first second, tokens = first ++ second ∧ IsWritten first before ∧ IsWritten second after := by
  obtain ⟨first, second, rfl, hfirst, hsecond⟩ := List.map_eq_append_iff.1 hwritten
  exact ⟨first, second, rfl, hfirst, hsecond⟩

theorem IsWritten.exists_cons {tokens : List Token} {kind : Token.Kind} {lexeme : String}
    {words : List Word} (hwritten : IsWritten tokens (⟨kind, lexeme⟩ :: words)) :
    ∃ token rest, tokens = token :: rest ∧ token.kind = kind ∧ token.lexeme = lexeme ∧
      IsWritten rest words := by
  obtain ⟨token, rest, rfl, htoken, hrest⟩ := List.map_eq_cons_iff.1 hwritten
  obtain ⟨hkind, hlexeme⟩ := Word.mk.inj htoken
  exact ⟨token, rest, rfl, hkind, hlexeme, hrest⟩

theorem IsWritten.eq_nil {tokens : List Token} (hwritten : IsWritten tokens []) : tokens = [] :=
  List.map_eq_nil_iff.1 hwritten

/-! ## Layers -/

end Grammar

/-- The tightest phrase that the words of a tree form without parentheses. -/
def Expr.phrase : Expr → Grammar.Phrase
  | .binary operator left right =>
      if operator.isTight then .product (.binary operator left right)
      else .sum (.binary operator left right)
  | tree => .primary tree

namespace Grammar

/-- The tokens form a phrase with a nesting below the bound. -/
def FormsBelow (bound : Nat) (phrase : Phrase) (tokens : List Token) : Prop :=
  ∃ nesting < bound, Forms phrase tokens nesting

variable {bound : Nat} {tree : Expr} {tokens : List Token}

theorem FormsBelow.product (hforms : FormsBelow bound (.primary tree) tokens) :
    FormsBelow bound (.product tree) tokens := by
  obtain ⟨nesting, hlt, hforms⟩ := hforms
  exact ⟨nesting, hlt, .productOfPrimary hforms⟩

theorem FormsBelow.sum (hforms : FormsBelow bound (.product tree) tokens) :
    FormsBelow bound (.sum tree) tokens := by
  obtain ⟨nesting, hlt, hforms⟩ := hforms
  exact ⟨nesting, hlt, .sumOfProduct hforms⟩

/-- Any tree is a sum. -/
theorem FormsBelow.sum_of_phrase (hforms : FormsBelow bound tree.phrase tokens) :
    FormsBelow bound (.sum tree) tokens := by
  cases tree with
  | binary operator left right =>
      rw [Expr.phrase] at hforms
      split at hforms
      · exact hforms.sum
      · exact hforms
  | _ => exact hforms.product.sum

/-- A tree is a product unless its operator is loose. -/
theorem FormsBelow.product_of_phrase (hforms : FormsBelow bound tree.phrase tokens)
    (htree : ∀ operator left right, tree = .binary operator left right →
      operator.isTight = true) : FormsBelow bound (.product tree) tokens := by
  cases tree with
  | binary operator left right =>
      rw [Expr.phrase, if_pos (htree operator left right rfl)] at hforms
      exact hforms
  | _ => exact hforms.product

/-- A tree without an operator is a primary. -/
theorem FormsBelow.primary_of_phrase (hforms : FormsBelow bound tree.phrase tokens)
    (htree : ∀ operator left right, tree ≠ .binary operator left right) :
    FormsBelow bound (.primary tree) tokens := by
  cases tree with
  | binary operator left right => exact absurd rfl (htree operator left right)
  | _ => exact hforms

/-- Parentheses make a primary of any tree, one nesting deeper. -/
theorem formsBelow_grouped {words : List Word}
    (hforms : ∀ inner, IsWritten inner words → FormsBelow bound tree.phrase inner)
    (hwritten : IsWritten tokens (Expr.grouped true words)) :
    FormsBelow (bound + 1) (.primary tree) tokens := by
  obtain ⟨opening, rest, rfl, hopening, -, hrest⟩ := hwritten.exists_cons
  obtain ⟨inner, last, rfl, hinner, hlast⟩ := hrest.exists_append
  obtain ⟨closing, others, rfl, hclosing, -, hothers⟩ := hlast.exists_cons
  obtain rfl := hothers.eq_nil
  obtain ⟨nesting, hlt, hsum⟩ := (hforms inner hinner).sum_of_phrase
  exact ⟨nesting + 1, Nat.succ_lt_succ hlt, .group hopening hsum hclosing⟩

theorem FormsBelow.mono {larger : Nat} {phrase : Phrase}
    (hforms : FormsBelow bound phrase tokens) (hle : bound ≤ larger) :
    FormsBelow larger phrase tokens := by
  obtain ⟨nesting, hlt, hforms⟩ := hforms
  exact ⟨nesting, Nat.lt_of_lt_of_le hlt hle, hforms⟩

/-- The left operand of an operator forms what the operator needs on its left. -/
theorem formsBelow_left {operator : Operator}
    (hforms : ∀ inner, IsWritten inner tree.words → FormsBelow bound tree.phrase inner)
    (hwritten : IsWritten tokens (Expr.grouped (tree.needsParensLeft operator) tree.words)) :
    FormsBelow (bound + 1) (if operator.isTight then .product tree else .sum tree) tokens := by
  cases hparens : tree.needsParensLeft operator with
  | true =>
      rw [hparens] at hwritten
      have hprimary := formsBelow_grouped hforms hwritten
      split
      · exact hprimary.product
      · exact hprimary.product.sum
  | false =>
      rw [hparens] at hwritten
      have hplain := (hforms tokens hwritten).mono (Nat.le_succ bound)
      split
      · -- Left of a tight operator a loose one would have got parentheses.
        rename_i htight
        refine hplain.product_of_phrase fun inner left right htree => ?_
        rw [htree, Expr.needsParensLeft, htight] at hparens
        cases hinner : inner.isTight with
        | true => rfl
        | false =>
            rw [hinner] at hparens
            exact absurd hparens (by decide)
      · exact hplain.sum_of_phrase

/-- The right operand of an operator forms what the operator needs on its right. -/
theorem formsBelow_right {operator : Operator}
    (hforms : ∀ inner, IsWritten inner tree.words → FormsBelow bound tree.phrase inner)
    (hwritten : IsWritten tokens (Expr.grouped (tree.needsParensRight operator) tree.words)) :
    FormsBelow (bound + 1) (if operator.isTight then .primary tree else .product tree) tokens := by
  cases hparens : tree.needsParensRight operator with
  | true =>
      rw [hparens] at hwritten
      have hprimary := formsBelow_grouped hforms hwritten
      split
      · exact hprimary
      · exact hprimary.product
  | false =>
      rw [hparens] at hwritten
      have hplain := (hforms tokens hwritten).mono (Nat.le_succ bound)
      split
      · -- Right of a tight operator any other one would have got parentheses.
        rename_i htight
        refine hplain.primary_of_phrase fun inner left right htree => ?_
        rw [htree, Expr.needsParensRight, htight] at hparens
        cases hinner : inner.isTight <;> simp_all
      · -- Right of a loose operator a loose one would have got parentheses.
        rename_i hloose
        refine hplain.product_of_phrase fun inner left right htree => ?_
        rw [htree, Expr.needsParensRight] at hparens
        cases hinner : inner.isTight <;> simp_all

/-- An operator and its operands form the tree, one higher than they are. -/
theorem formsBelow_binary {operator : Operator} {left right : Expr} {before after : List Token}
    {sign : Token}
    (hleft : FormsBelow (left.height + 1) (if operator.isTight then .product left else .sum left)
      before)
    (hsign : sign.kind = operator.kind)
    (hright : FormsBelow (right.height + 1)
      (if operator.isTight then .primary right else .product right) after) :
    FormsBelow (Expr.binary operator left right).height (Expr.binary operator left right).phrase
      (before ++ sign :: after) := by
  obtain ⟨m, hm, hleft⟩ := hleft
  obtain ⟨n, hn, hright⟩ := hright
  have hlt : max m n < (Expr.binary operator left right).height := by
    rw [Expr.height]
    omega
  refine ⟨max m n, hlt, ?_⟩
  rw [Expr.phrase]
  split
  · rename_i htight
    rw [if_pos htight] at hleft hright
    exact .productOfSign hleft htight hsign hright
  · rename_i hloose
    rw [if_neg hloose] at hleft hright
    exact .sumOfSign hleft (by simpa using hloose) hsign hright

/-! ## Expressions -/

mutual

/-- The words of an expression form it, nested less deep than it is high. -/
theorem formsBelow_words (tree : Expr) (hnumbers : ∀ value ∈ tree.numbers, 0 ≤ value.toInt)
    (tokens : List Token) (hwritten : IsWritten tokens tree.words) :
    FormsBelow tree.height tree.phrase tokens := by
  cases tree with
  | number value =>
      obtain ⟨word, rest, rfl, hkind, hlexeme, hrest⟩ := hwritten.exists_cons
      obtain rfl := hrest.eq_nil
      have hvalue := Numeral.toInt64?_ofInt (hnumbers value (by simp [Expr.numbers]))
      rw [← hlexeme] at hvalue
      exact ⟨0, Expr.height_pos _, .number hkind hvalue⟩
  | name identifier =>
      obtain ⟨word, rest, rfl, hkind, rfl, hrest⟩ := hwritten.exists_cons
      obtain rfl := hrest.eq_nil
      exact ⟨0, Expr.height_pos _, .name hkind⟩
  | string value =>
      obtain ⟨word, rest, rfl, hkind, rfl, hrest⟩ := hwritten.exists_cons
      obtain rfl := hrest.eq_nil
      exact ⟨0, Expr.height_pos _, .string hkind⟩
  | binary operator left right =>
      rw [Expr.numbers, List.forall_mem_append] at hnumbers
      obtain ⟨before, others, rfl, hbefore, hothers⟩ := hwritten.exists_append
      obtain ⟨sign, after, rfl, hsign, -, hafter⟩ := hothers.exists_cons
      have hleft := formsBelow_left (formsBelow_words left hnumbers.1) hbefore
      have hright := formsBelow_right (formsBelow_words right hnumbers.2) hafter
      exact formsBelow_binary hleft hsign hright
  | call function trees =>
      rw [Expr.numbers] at hnumbers
      obtain ⟨name, others, rfl, hname, rfl, hothers⟩ := hwritten.exists_cons
      obtain ⟨opening, others, rfl, hopening, -, hothers⟩ := hothers.exists_cons
      obtain ⟨inner, last, rfl, hinner, hlast⟩ := hothers.exists_append
      obtain ⟨closing, others, rfl, hclosing, -, hothers⟩ := hlast.exists_cons
      obtain rfl := hothers.eq_nil
      obtain ⟨nesting, hlt, harguments⟩ := formsBelow_argumentWords trees hnumbers inner hinner
      rw [Expr.height]
      exact ⟨nesting, hlt, .call hname hopening harguments hclosing⟩

/-- The words of arguments form them, nested no deeper than the highest is high. -/
theorem formsBelow_argumentWords (trees : List Expr)
    (hnumbers : ∀ value ∈ Expr.numbersOfAll trees, 0 ≤ value.toInt) (tokens : List Token)
    (hwritten : IsWritten tokens (Expr.argumentWords trees)) :
    FormsBelow (Expr.greatestHeight trees + 1) (.arguments trees) tokens := by
  match trees with
  | [] =>
      rw [Expr.argumentWords] at hwritten
      obtain rfl := hwritten.eq_nil
      exact ⟨0, Nat.succ_pos _, .noArguments⟩
  | [tree] =>
      rw [Expr.numbersOfAll, List.forall_mem_append] at hnumbers
      rw [Expr.argumentWords] at hwritten
      obtain ⟨nesting, hlt, hsum⟩ :=
        (formsBelow_words tree hnumbers.1 tokens hwritten).sum_of_phrase
      rw [Expr.greatestHeight, Expr.greatestHeight, Nat.max_zero]
      exact ⟨nesting + 1, Nat.succ_lt_succ hlt, .lastArgument hsum⟩
  | tree :: second :: trees =>
      rw [Expr.numbersOfAll, List.forall_mem_append] at hnumbers
      obtain ⟨before, others, rfl, hbefore, hothers⟩ := hwritten.exists_append
      obtain ⟨comma, after, rfl, hcomma, -, hafter⟩ := hothers.exists_cons
      obtain ⟨m, hm, hfirst⟩ := (formsBelow_words tree hnumbers.1 before hbefore).sum_of_phrase
      obtain ⟨n, hn, hrest⟩ :=
        formsBelow_argumentWords (second :: trees) hnumbers.2 after hafter
      rw [Expr.greatestHeight]
      exact ⟨max (m + 1) n, by omega, .moreArguments hfirst hcomma hrest (by simp)⟩

end

/-! ## Statements, functions, programs -/

/-- The expressions can be written, and are at most as high as the bound. -/
structure Writable (bound : Nat) (expressions : List Expr) : Prop where
  nonneg : ∀ value ∈ expressions.flatMap Expr.numbers, 0 ≤ value.toInt
  height_le : ∀ expression ∈ expressions, expression.height ≤ bound

theorem Writable.append {first second : List Expr} (hwritable : Writable bound (first ++ second)) :
    Writable bound first ∧ Writable bound second := by
  obtain ⟨hnonneg, hheight⟩ := hwritable
  rw [List.flatMap_append, List.forall_mem_append] at hnonneg
  rw [List.forall_mem_append] at hheight
  exact ⟨⟨hnonneg.1, hheight.1⟩, ⟨hnonneg.2, hheight.2⟩⟩

theorem Writable.formsBelow (hwritable : Writable bound [tree])
    (hwritten : IsWritten tokens tree.words) : FormsBelow bound (.sum tree) tokens := by
  have hnumbers : ∀ value ∈ tree.numbers, 0 ≤ value.toInt := by simpa using hwritable.nonneg
  have hheight : tree.height ≤ bound := hwritable.height_le tree (by simp)
  exact ((formsBelow_words tree hnumbers tokens hwritten).mono hheight).sum_of_phrase

/-- An expression with a semicolon after it. -/
theorem Writable.exists_forms (hwritable : Writable bound [tree])
    (hwritten : IsWritten tokens (tree.words ++ [⟨.semicolon, ";"⟩])) :
    ∃ inner semicolon nesting, tokens = inner ++ [semicolon] ∧ semicolon.kind = .semicolon ∧
      nesting < bound ∧ Forms (.sum tree) inner nesting := by
  obtain ⟨inner, last, rfl, hinner, hlast⟩ := hwritten.exists_append
  obtain ⟨semicolon, rest, rfl, hsemicolon, -, hrest⟩ := hlast.exists_cons
  obtain rfl := hrest.eq_nil
  obtain ⟨nesting, hlt, hforms⟩ := hwritable.formsBelow hinner
  exact ⟨inner, semicolon, nesting, rfl, hsemicolon, hlt, hforms⟩

theorem exists_formsStatement (statement : Stmt) (hbound : 0 < bound)
    (hwritable : Writable bound statement.expressions)
    (hwritten : IsWritten tokens statement.words) :
    ∃ nesting < bound, FormsStatement statement tokens nesting := by
  cases statement with
  | declare name init =>
      cases init with
      | none =>
          obtain ⟨int, rest, rfl, hint, -, hrest⟩ := hwritten.exists_cons
          obtain ⟨declared, others, rfl, hname, rfl, hothers⟩ := hrest.exists_cons
          obtain ⟨semicolon, rest, rfl, hsemicolon, -, hend⟩ := hothers.exists_cons
          obtain rfl := hend.eq_nil
          exact ⟨0, hbound, .declare hint hname hsemicolon⟩
      | some init =>
          obtain ⟨int, rest, rfl, hint, -, hrest⟩ := hwritten.exists_cons
          obtain ⟨declared, others, rfl, hname, rfl, hothers⟩ := hrest.exists_cons
          obtain ⟨assign, value, rfl, hassign, -, hvalue⟩ := hothers.exists_cons
          obtain ⟨inner, semicolon, nesting, rfl, hsemicolon, hlt, hforms⟩ :=
            hwritable.exists_forms hvalue
          exact ⟨nesting, hlt, .declareWith hint hname hassign hforms hsemicolon⟩
  | assign name value =>
      obtain ⟨assigned, rest, rfl, hname, rfl, hrest⟩ := hwritten.exists_cons
      obtain ⟨assign, rest, rfl, hassign, -, hrest⟩ := hrest.exists_cons
      obtain ⟨inner, semicolon, nesting, rfl, hsemicolon, hlt, hforms⟩ :=
        hwritable.exists_forms hrest
      exact ⟨nesting, hlt, .assign hname hassign hforms hsemicolon⟩
  | returns value =>
      cases value with
      | none =>
          obtain ⟨word, rest, rfl, hword, -, hrest⟩ := hwritten.exists_cons
          obtain ⟨semicolon, rest, rfl, hsemicolon, -, hrest⟩ := hrest.exists_cons
          obtain rfl := hrest.eq_nil
          exact ⟨0, hbound, .returns hword hsemicolon⟩
      | some value =>
          obtain ⟨word, rest, rfl, hword, -, hrest⟩ := hwritten.exists_cons
          obtain ⟨inner, semicolon, nesting, rfl, hsemicolon, hlt, hforms⟩ :=
            hwritable.exists_forms hrest
          exact ⟨nesting, hlt, .returnsValue hword hforms hsemicolon⟩
  | evaluate expression =>
      obtain ⟨inner, semicolon, nesting, rfl, hsemicolon, hlt, hforms⟩ :=
        hwritable.exists_forms hwritten
      exact ⟨nesting, hlt, .evaluate hforms hsemicolon⟩

/-- Items written one after another form all of them. -/
theorem exists_formsEach {α : Type} {forms : α → List Token → Nat → Prop} {words : α → List Word}
    {expressions : α → List Expr} (items : List α) (hbound : 0 < bound)
    (hitem : ∀ item, Writable bound (expressions item) → ∀ tokens, IsWritten tokens (words item) →
      ∃ nesting < bound, forms item tokens nesting)
    (hwritable : Writable bound (items.flatMap expressions))
    (hwritten : IsWritten tokens (items.flatMap words)) :
    ∃ nesting < bound, FormsEach forms items tokens nesting := by
  induction items generalizing tokens with
  | nil =>
      obtain rfl := hwritten.eq_nil
      exact ⟨0, hbound, .nil⟩
  | cons item items ih =>
      rw [List.flatMap_cons] at hwritable hwritten
      obtain ⟨hfirst, hothers⟩ := hwritable.append
      obtain ⟨before, after, rfl, hbefore, hafter⟩ := hwritten.exists_append
      obtain ⟨m, hm, hitem⟩ := hitem item hfirst before hbefore
      obtain ⟨n, hn, hitems⟩ := ih hothers hafter
      exact ⟨max m n, Nat.max_lt.2 ⟨hm, hn⟩, .cons hitem hitems⟩

theorem exists_formsFunction (function : Function) (hbound : 0 < bound)
    (hwritable : Writable bound function.expressions)
    (hwritten : IsWritten tokens function.words) :
    ∃ nesting < bound, FormsFunction function tokens nesting := by
  obtain ⟨functionName, body⟩ := function
  obtain ⟨int, rest, rfl, hint, -, hrest⟩ := hwritten.exists_cons
  obtain ⟨name, rest, rfl, hname, rfl, hrest⟩ := hrest.exists_cons
  obtain ⟨opening, rest, rfl, hopening, -, hrest⟩ := hrest.exists_cons
  obtain ⟨closing, rest, rfl, hclosing, -, hrest⟩ := hrest.exists_cons
  obtain ⟨start, rest, rfl, hstart, -, hrest⟩ := hrest.exists_cons
  obtain ⟨inner, last, rfl, hinner, hlast⟩ := hrest.exists_append
  obtain ⟨stop, rest, rfl, hstop, -, hrest⟩ := hlast.exists_cons
  obtain rfl := hrest.eq_nil
  obtain ⟨nesting, hlt, hbody⟩ := exists_formsEach body hbound
    (fun statement hstatement _ => exists_formsStatement statement hbound hstatement)
    hwritable hinner
  exact ⟨nesting, hlt, .intro hint hname hopening hclosing hstart hbody hstop⟩

/-- The words of a program form it. -/
theorem exists_formsProgram (program : Program) (hbound : 0 < bound)
    (hwritable : Writable bound program.expressions)
    (hwritten : IsWritten tokens program.words) :
    ∃ nesting < bound, FormsProgram program tokens nesting :=
  exists_formsEach program.functions hbound
    (fun function hfunction _ => exists_formsFunction function hbound hfunction)
    hwritable hwritten

end Grammar

end TinyC
