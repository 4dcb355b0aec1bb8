import TinyC.Proofs.Grammar.Lexemes
import TinyC.Proofs.Grammar.ViablePrefix

/-!
# What a tree keeps of its numbers

The numbers in a tree are those that its number words stand for, in the order of
the words.  A number that does not fit belongs to no tree, so reading fails there
at the latest; and it fails with just that word, for just that reason, if another
number in its place would be read over.

## Strategy

A failure is decided by the kind of the next word, unless an integer does not fit
(`exists_functions_of_sameNext`).  So a failure for another reason, or before the
number, would be the same with another number.
-/

namespace TinyC.Grammar

open Syntax

/-! ## Numbers of words -/

/-- The numbers that the number words stand for, in order.  There is none for one that does not
fit. -/
def numbers (words : List Token) : List (Option Int64) :=
  (lexemes .number words).map fun lexeme => Numeral.toInt64? lexeme.toList

theorem numbers_cons (word : Token) (words : List Token) :
    numbers (word :: words) =
      (if word.kind = .number then [Numeral.toInt64? word.lexeme.toList] else []) ++
        numbers words := by
  rw [numbers, lexemes_cons, List.map_append]
  split <;> rfl

@[simp] theorem numbers_nil : numbers [] = [] := rfl

@[simp] theorem numbers_append (before after : List Token) :
    numbers (before ++ after) = numbers before ++ numbers after := by
  rw [numbers, lexemes_append, List.map_append]
  rfl

/-- The numbers in the tree or trees of a phrase. -/
def Phrase.numbers : Phrase → List Int64
  | .sum tree | .product tree | .primary tree => tree.numbers
  | .arguments trees => Expr.numbersOfAll trees

/-- Operators are no numbers. -/
theorem numbers_sign {operator : Operator} {sign : Token} (hsign : sign.kind = operator.kind)
    (words : List Token) : numbers (sign :: words) = numbers words := by
  have hne : sign.kind ≠ .number := by
    rw [hsign]
    cases operator <;> decide
  rw [numbers_cons, if_neg hne, List.nil_append]

variable {words : List Token} {nesting : Nat}

theorem Forms.numbers_eq {phrase : Phrase} (hforms : Forms phrase words nesting) :
    phrase.numbers.map some = numbers words := by
  induction hforms with
  | sumOfProduct _ ih => exact ih
  | productOfPrimary _ ih => exact ih
  | lastArgument _ ih => simpa [Phrase.numbers, Expr.numbersOfAll] using ih
  | noArguments => rfl
  | number hword hvalue => simp [numbers_cons, hword, hvalue, Phrase.numbers, Expr.numbers]
  | string hword => simp [numbers_cons, hword, Phrase.numbers, Expr.numbers]
  | name hword => simp [numbers_cons, hword, Phrase.numbers, Expr.numbers]
  | sumOfSign _ _ hsign _ ihleft ihright =>
      rw [numbers_append, numbers_sign hsign, ← ihleft, ← ihright]
      exact List.map_append
  | productOfSign _ _ hsign _ ihleft ihright =>
      rw [numbers_append, numbers_sign hsign, ← ihleft, ← ihright]
      exact List.map_append
  | call hfunction hopening _ hclosing ih =>
      simp [numbers_cons, hfunction, hopening, hclosing, ← ih, Phrase.numbers, Expr.numbers]
  | group hopening _ hclosing ih =>
      simpa [numbers_cons, hopening, hclosing, Phrase.numbers] using ih
  | moreArguments _ hcomma _ _ ihfirst ihothers =>
      simp [numbers_cons, hcomma, ← ihfirst, ← ihothers, Phrase.numbers, Expr.numbersOfAll]

theorem FormsStatement.numbers_eq {statement : Stmt}
    (hforms : FormsStatement statement words nesting) :
    (statement.expressions.flatMap Expr.numbers).map some = numbers words := by
  cases hforms with
  | declare hint hname hsemicolon =>
      simp [numbers_cons, hint, hname, hsemicolon, Stmt.expressions]
  | declareWith hint hname hassign hinit hsemicolon =>
      simpa [numbers_cons, hint, hname, hassign, hsemicolon, Stmt.expressions, Phrase.numbers]
        using hinit.numbers_eq
  | assign hname hassign hvalue hsemicolon =>
      simpa [numbers_cons, hname, hassign, hsemicolon, Stmt.expressions, Phrase.numbers]
        using hvalue.numbers_eq
  | returns hword hsemicolon => simp [numbers_cons, hword, hsemicolon, Stmt.expressions]
  | returnsValue hword hvalue hsemicolon =>
      simpa [numbers_cons, hword, hsemicolon, Stmt.expressions, Phrase.numbers]
        using hvalue.numbers_eq
  | evaluate hvalue hsemicolon =>
      simpa [numbers_cons, hsemicolon, Stmt.expressions, Phrase.numbers] using hvalue.numbers_eq

theorem FormsEach.numbers_eq {α : Type} {forms : α → List Token → Nat → Prop}
    {values : α → List Int64} {items : List α} (heach : FormsEach forms items words nesting)
    (hforms : ∀ {item words nesting}, forms item words nesting →
      (values item).map some = numbers words) :
    (items.flatMap values).map some = numbers words := by
  induction heach with
  | nil => rfl
  | cons hfirst _ ih =>
      rw [List.flatMap_cons, List.map_append, hforms hfirst, ih, numbers_append]

theorem FormsFunction.numbers_eq {function : Function}
    (hforms : FormsFunction function words nesting) :
    (function.expressions.flatMap Expr.numbers).map some = numbers words := by
  obtain ⟨hint, hname, hopening, hclosing, hstart, hbody, hstop⟩ := hforms
  have hbody := hbody.numbers_eq FormsStatement.numbers_eq
  rw [Function.expressions, List.flatMap_assoc]
  simpa [numbers_cons, hint, hname, hopening, hclosing, hstart, hstop] using hbody

/-- The numbers of a program are those of its words, all of which fit. -/
theorem FormsProgram.numbers_eq {program : Program} (hforms : FormsProgram program words nesting) :
    program.numbers.map some = numbers words := by
  rw [Program.numbers, Program.expressions, List.flatMap_assoc]
  exact FormsEach.numbers_eq hforms FormsFunction.numbers_eq

/-! ## Numbers that do not fit -/

/-- Every number in a program fits. -/
theorem FormsProgram.fits {program : Program} (hforms : FormsProgram program words nesting)
    {word : Token} (hword : word ∈ words) (hkind : word.kind = .number) :
    Numeral.toInt64? word.lexeme.toList ≠ none := by
  have hmem : Numeral.toInt64? word.lexeme.toList ∈ program.numbers.map some := by
    rw [hforms.numbers_eq, numbers]
    exact List.mem_map.2 ⟨word.lexeme, List.mem_filterMap.2 ⟨word, hword, if_pos hkind⟩, rfl⟩
  obtain ⟨value, -, hvalue⟩ := List.mem_map.1 hmem
  rw [← hvalue]
  exact Option.some_ne_none value

/-- What begins a program has no number that does not fit. -/
theorem IsViable.fits {taken : List Token} (hviable : IsViable taken) {word : Token}
    (hword : word ∈ taken) (hkind : word.kind = .number) :
    Numeral.toInt64? word.lexeme.toList ≠ none := by
  obtain ⟨completion, sentence, last, program, nesting, hsentence, hlast, hforms⟩ := hviable
  refine hforms.fits ?_ hkind
  have hmem : word ∈ sentence ++ [last] := hsentence ▸ List.mem_append_left _ hword
  refine (List.mem_append.1 hmem).resolve_right fun hend => ?_
  obtain rfl := List.mem_singleton.1 hend
  rw [hkind] at hlast
  cases hlast

/-- Reading comes to the last words: it succeeds, or fails among them. -/
def Reaches (limits : Limits) (words last : List Token) : Prop :=
  ∀ failure, Syntax.functions limits words = .error failure → failure.rest <:+ last

variable {limits : Limits} {before after : List Token} {word other : Token}

theorem Reaches.ne_error {words last : List Token} (hreaches : Reaches limits words last)
    {failure : Failure} (hlonger : last.length < failure.rest.length) :
    Syntax.functions limits words ≠ .error failure := by
  intro hread
  exact Nat.not_le_of_lt hlonger (hreaches failure hread).length_le

/-- No failure comes after a number that does not fit. -/
theorem exists_eq_append_of_failure {failure : Failure} (hword : word.kind = .number)
    (hunfit : Numeral.toInt64? word.lexeme.toList = none)
    (hread : Syntax.functions limits (before ++ word :: after) = .error failure) :
    ∃ taken between, before = taken ++ between ∧ failure.rest = between ++ word :: after ∧
      ∀ others, SameNext failure.expected others failure.rest →
        Syntax.functions limits (taken ++ others) = .error ⟨failure.expected, others⟩ := by
  obtain ⟨taken, hwords, hsame⟩ := exists_functions_of_sameNext hread
  obtain ⟨viable, hviable, hcompletion⟩ := exists_isViable_of_failure hread
  obtain rfl : viable = taken := List.append_cancel_right (hviable.symm.trans hwords)
  rcases List.append_eq_append_iff.1 hwords with ⟨between, rfl, hrest⟩ | ⟨between, hbefore, hrest⟩
  · cases between with
    | nil => exact ⟨_, [], by simp, by simpa using hrest.symm, hsame⟩
    | cons next between =>
        obtain rfl : word = next := (List.cons.inj hrest).1
        exact absurd hunfit (hcompletion.fits (by simp) hword)
  · exact ⟨viable, between, hbefore, hrest, hsame⟩

/-- A number that does not fit is what reading fails with, if it would come to the words after
another number in its place. -/
theorem functions_of_unfit (hword : word.kind = .number)
    (hunfit : Numeral.toInt64? word.lexeme.toList = none) (hother : other.kind = .number)
    (hreaches : Reaches limits (before ++ other :: after) after) :
    Syntax.functions limits (before ++ word :: after) =
      .error ⟨.integerThatFits, word :: after⟩ := by
  cases hread : Syntax.functions limits (before ++ word :: after) with
  | ok functions =>
      obtain ⟨nesting, -, hforms⟩ := (functions_eq_ok_iff.1 hread).forms
      have hprogram : FormsProgram ⟨functions⟩ (before ++ word :: after) nesting := hforms
      exact absurd hunfit (hprogram.fits (by simp) hword)
  | error failure =>
      obtain ⟨taken, between, rfl, hrest, hsame⟩ :=
        exists_eq_append_of_failure hword hunfit hread
      obtain ⟨expected, rest⟩ := failure
      obtain rfl : rest = between ++ word :: after := hrest
      have hdiffers : ¬ SameNext expected (between ++ other :: after)
          (between ++ word :: after) := by
        intro hnext
        -- The same failure would come of the other number, and before it is read over.
        have hfailure := hsame _ hnext
        rw [← List.append_assoc] at hfailure
        refine hreaches.ne_error ?_ hfailure
        simp only [List.length_append, List.length_cons]
        omega
      cases between with
      | nil =>
          have hkind : SameKind (other :: after) (word :: after) := by
            simp [SameKind, hword, hother]
          have hexpected : expected = .integerThatFits := Decidable.byContradiction fun hne =>
            hdiffers ⟨hkind, fun heq => absurd heq hne⟩
          rw [hexpected]
          rfl
      | cons next between => exact absurd (.of_head? rfl) hdiffers

end TinyC.Grammar
