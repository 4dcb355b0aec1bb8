import TinyC.Proofs.Grammar.Acceptance
import TinyC.Proofs.Grammar.Locality

/-!
# Where tokens stop being the beginning of a program

A syntax error names a token.  Unless it says that an expression is nested or
built too high, this is the first token that cannot belong to any program: those
before it can be completed to one, and those up to and including it cannot.
Programs are meant without the limits on nesting and height here.

## Strategy

What was read before a failure begins a program (`meets_functionsToEnd`).  Were
the token of the error to belong to a program with the same beginning, then wide
enough limits would let that program be read (`FormsEach.functions`); but the
reader fails at the same token with these limits too, since no other word was
looked at (`persists_functionsToEnd`).
-/

namespace TinyC

/-- Limits wide enough for the given height and nesting besides. -/
def Limits.widen (limits : Limits) (height nesting : Nat) : Limits where
  height := limits.height + height
  nesting := limits.nesting + nesting
  height_pos := Nat.add_pos_left limits.height_pos height
  nesting_pos := Nat.add_pos_left limits.nesting_pos nesting

namespace Grammar

open Syntax

/-- The tokens with an end of input after them, unless they have one as the last token. -/
def withEnd (tokens : List Token) : List Token :=
  if tokens.getLast?.any fun last => last.kind = .endOfInput then tokens
  else tokens ++ [.endAt ((tokens.getLast?.map fun last => last.span.stop).getD 0)]

/-- The tokens are those of a program and an end of input after it. -/
def IsSentence (tokens : List Token) : Prop :=
  ∃ words last program nesting, tokens = words ++ [last] ∧ last.kind = .endOfInput ∧
    FormsProgram program words nesting

/-- The tokens begin a program. -/
def IsViable (tokens : List Token) : Prop :=
  ∃ completion, IsSentence (tokens ++ completion)

/-! ## Words and ends -/

theorem Forms.ne_endOfInput {phrase : Phrase} {words : List Token} {nesting : Nat}
    (hforms : Forms phrase words nesting) : ∀ word ∈ words, word.kind ≠ .endOfInput := by
  intro word hword hkind
  have hstands := hforms.standsInExpression word hword
  simp [hkind, Token.Kind.standsInExpression] at hstands

theorem FormsStatement.ne_endOfInput {statement : Stmt} {words : List Token} {nesting : Nat}
    (hforms : FormsStatement statement words nesting) :
    ∀ word ∈ words, word.kind ≠ .endOfInput := by
  cases hforms with
  | declare hint hname hsemicolon => simp [hint, hname, hsemicolon]
  | declareWith hint hname hassign hinit hsemicolon =>
      simpa [hint, hname, hassign, hsemicolon, or_imp, forall_and] using hinit.ne_endOfInput
  | assign hname hassign hvalue hsemicolon =>
      simpa [hname, hassign, hsemicolon, or_imp, forall_and] using hvalue.ne_endOfInput
  | returns hword hsemicolon => simp [hword, hsemicolon]
  | returnsValue hword hvalue hsemicolon =>
      simpa [hword, hsemicolon, or_imp, forall_and] using hvalue.ne_endOfInput
  | evaluate hvalue hsemicolon =>
      simpa [hsemicolon, or_imp, forall_and] using hvalue.ne_endOfInput

theorem FormsEach.ne_endOfInput {α : Type} {forms : α → List Token → Nat → Prop} {items : List α}
    {words : List Token} {nesting : Nat} (heach : FormsEach forms items words nesting)
    (hforms : ∀ {item words nesting}, forms item words nesting →
      ∀ word ∈ words, word.kind ≠ .endOfInput) :
    ∀ word ∈ words, word.kind ≠ .endOfInput := by
  induction heach with
  | nil => simp
  | cons hfirst _ ih => exact List.forall_mem_append.2 ⟨hforms hfirst, ih⟩

theorem FormsFunction.ne_endOfInput {function : Function} {words : List Token} {nesting : Nat}
    (hforms : FormsFunction function words nesting) :
    ∀ word ∈ words, word.kind ≠ .endOfInput := by
  obtain ⟨hint, hname, hopening, hclosing, hstart, hbody, hstop⟩ := hforms
  simpa [hint, hname, hopening, hclosing, hstart, hstop, or_imp, forall_and] using
    hbody.ne_endOfInput FormsStatement.ne_endOfInput

theorem FormsProgram.ne_endOfInput {program : Program} {words : List Token} {nesting : Nat}
    (hforms : FormsProgram program words nesting) : ∀ word ∈ words, word.kind ≠ .endOfInput :=
  FormsEach.ne_endOfInput hforms FormsFunction.ne_endOfInput

theorem kind_stop (tokens : List Token) : (Syntax.stop tokens).kind = .endOfInput := by
  rw [Syntax.stop]
  cases hfind : tokens.find? fun token => token.kind = .endOfInput with
  | none => rfl
  | some token => simpa using List.find?_some hfind

/-- The words and the end at which reading stops are what the tokens begin with. -/
theorem exists_withEnd_eq (tokens : List Token) :
    ∃ after, withEnd tokens = Syntax.words tokens ++ Syntax.stop tokens :: after := by
  cases hfind : tokens.find? fun token => token.kind = .endOfInput with
  | none =>
      have htokens : ∀ word ∈ tokens, word.kind ≠ .endOfInput := by simpa using hfind
      have hlast : ¬ tokens.getLast?.any fun last => last.kind = .endOfInput := by
        intro hany
        obtain ⟨last, hlast, hkind⟩ := (Option.any_eq_true _ _).1 hany
        exact htokens last (List.mem_of_getLast? hlast) (by simpa using hkind)
      refine ⟨[], ?_⟩
      rw [withEnd, if_neg hlast, words_of_ne_endOfInput htokens, stop_of_ne_endOfInput htokens]
  | some last =>
      obtain ⟨hkind, before, after, rfl, hbefore⟩ := List.find?_eq_some_iff_append.1 hfind
      have hlast : last.kind = .endOfInput := by simpa using hkind
      have hwords : ∀ word ∈ before, word.kind ≠ .endOfInput := by simpa using hbefore
      rw [withEnd, words_append hwords hlast, stop_append_cons hwords hlast]
      split
      · exact ⟨after, rfl⟩
      · exact ⟨_, by rw [List.append_assoc]; rfl⟩

/-! ## Wide enough limits -/

theorem height_le_greatestHeight {trees : List Expr} {tree : Expr} (htree : tree ∈ trees) :
    tree.height ≤ Expr.greatestHeight trees := by
  induction trees with
  | nil => simp at htree
  | cons first rest ih =>
      rw [Expr.greatestHeight]
      rcases List.mem_cons.1 htree with rfl | hrest
      · exact Nat.le_max_left _ _
      · exact Nat.le_trans (ih hrest) (Nat.le_max_right _ _)

/-- Every program is read within wide enough limits. -/
theorem FormsProgram.exists_limits (limits : Limits) {program : Program} {words : List Token}
    {nesting : Nat} (hforms : FormsProgram program words nesting) :
    ∃ wider, WidensBoth (· ≠ .lowerExpression) limits wider ∧
      Syntax.functions wider words = .ok program.functions := by
  refine ⟨limits.widen (Expr.greatestHeight program.expressions) nesting, ?_, ?_⟩
  · exact ⟨⟨Nat.le_add_right _ _, fun h => absurd rfl h⟩,
      ⟨Nat.le_add_right _ _, fun h => absurd rfl h⟩⟩
  · refine FormsEach.functions hforms (fun tree htree => ?_) ?_
    · exact Nat.le_trans (height_le_greatestHeight htree) (Nat.le_add_left _ _)
    · exact Nat.lt_add_of_pos_left limits.nesting_pos

/-! ## Where reading fails -/

variable {limits : Limits} {words : List Token} {failure : Failure}

/-- The words before a failure begin a program. -/
theorem exists_isViable_of_failure (hread : Syntax.functions limits words = .error failure) :
    ∃ taken, words = taken ++ failure.rest ∧ IsViable taken := by
  have hmeets := meets_functionsToEnd limits words
  rw [functionsToEnd, hread] at hmeets
  obtain ⟨taken, completion, hwords, functions, nesting, hforms⟩ := hmeets
  exact ⟨taken, hwords, completion ++ [someWord .endOfInput], taken ++ completion,
    someWord .endOfInput, ⟨functions⟩, nesting, by simp, rfl, hforms⟩

/-- No program begins with the words before a failure and the next word, or ends where there is
none. -/
theorem not_formsProgram_of_failure {taken other : List Token} {program : Program} {nesting : Nat}
    (hread : Syntax.functions limits words = .error failure)
    (hwords : words = taken ++ failure.rest) (hexpected : failure.expected ≠ .lowerExpression)
    (hother : other.head? = failure.rest.head?) :
    ¬ FormsProgram program (taken ++ other) nesting := by
  intro hforms
  -- Wider limits let the program be read, yet they do not remove the failure.
  obtain ⟨wider, hwidens, hfunctions⟩ := FormsProgram.exists_limits limits hforms
  have hpersists := persists_functionsToEnd hwidens words
  rw [functionsToEnd, hread] at hpersists
  obtain ⟨before, hbefore, hsecond⟩ := hpersists hexpected
  obtain rfl : taken = before := List.append_cancel_right (hwords.symm.trans hbefore)
  have hfailure := hsecond other (.of_head? hother)
  rw [functionsToEnd, hfunctions] at hfailure
  simp [Except.map] at hfailure

/-- Where a sentence begins with given tokens, its words go on with the last of them, or end
before it. -/
theorem exists_words_of_sentence {before after sentence : List Token} {found last : Token}
    (hsentence : before ++ [found] ++ after = sentence ++ [last]) :
    ∃ other, sentence = before ++ other ∧
      (other = [] ∧ found = last ∨ other.head? = some found) := by
  rw [List.append_assoc, List.singleton_append] at hsentence
  rcases List.append_eq_append_iff.1 hsentence with ⟨other, rfl, hother⟩ | ⟨other, rfl, hother⟩
  · refine ⟨other, rfl, ?_⟩
    cases other with
    | nil => exact .inl ⟨rfl, (List.cons.inj hother).1⟩
    | cons word other => exact .inr (congrArg some (List.cons.inj hother).1.symm)
  · cases other with
    | nil => exact ⟨[], by simp, .inl ⟨rfl, (List.cons.inj hother).1.symm⟩⟩
    | cons word other => simp at hother

/-- The next word, or the end where there is none, cannot follow the words before a failure. -/
theorem not_isViable_of_failure {taken : List Token} {found : Token}
    (hread : Syntax.functions limits words = .error failure)
    (hwords : words = taken ++ failure.rest) (hexpected : failure.expected ≠ .lowerExpression)
    (hnext : failure.rest.head? = if found.kind = .endOfInput then none else some found) :
    ¬ IsViable (taken ++ [found]) := by
  rintro ⟨completion, sentence, last, program, nesting, hsentence, hlast, hforms⟩
  obtain ⟨other, rfl, ⟨rfl, rfl⟩ | hother⟩ := exists_words_of_sentence hsentence
  · -- The sentence ends where reading failed, so the failure was at the end as well.
    rw [if_pos hlast] at hnext
    have hother : ([] : List Token).head? = failure.rest.head? := hnext.symm
    exact not_formsProgram_of_failure hread hwords hexpected hother hforms
  · have hfound : found.kind ≠ .endOfInput :=
      hforms.ne_endOfInput found (List.mem_append_right _ (List.mem_of_head? hother))
    rw [if_neg hfound] at hnext
    exact not_formsProgram_of_failure hread hwords hexpected (hother.trans hnext.symm) hforms

theorem exists_failure_of_error {tokens : List Token} {expected : Expectation} {found : Token}
    (herror : Program.ofTokens tokens = .error ⟨expected, found⟩) :
    ∃ rest, Syntax.functions .standard (Syntax.words tokens) = .error ⟨expected, rest⟩ ∧
      found = rest.head?.getD (Syntax.stop tokens) := by
  rw [Program.ofTokens] at herror
  cases hread : Syntax.functions .standard (Syntax.words tokens) with
  | ok functions => simp [hread] at herror
  | error failure =>
      obtain ⟨unmet, rest⟩ := failure
      rw [hread] at herror
      obtain ⟨rfl, hfound⟩ : unmet = expected ∧ rest.head?.getD (Syntax.stop tokens) = found := by
        simpa using herror
      exact ⟨rest, rfl, hfound.symm⟩

/-- What follows some of the words in the tokens is the next word, or the end. -/
theorem withEnd_eq_of_words {tokens taken rest : List Token} {found : Token}
    (hwords : Syntax.words tokens = taken ++ rest)
    (hfound : found = rest.head?.getD (Syntax.stop tokens)) :
    (∃ others, withEnd tokens = taken ++ found :: others) ∧
      rest.head? = if found.kind = .endOfInput then none else some found := by
  obtain ⟨after, hend⟩ := exists_withEnd_eq tokens
  cases rest with
  | nil =>
      obtain rfl : found = Syntax.stop tokens := hfound
      rw [if_pos (kind_stop tokens), hend, hwords, List.append_nil]
      exact ⟨⟨after, rfl⟩, rfl⟩
  | cons word rest =>
      obtain rfl : found = word := hfound
      have hword : found ∈ Syntax.words tokens := by simp [hwords]
      rw [if_neg (ne_endOfInput_of_mem_words hword), hend, hwords]
      exact ⟨⟨rest ++ Syntax.stop tokens :: after, by simp⟩, rfl⟩

/-- A syntax error that is not about a limit names the first token that cannot belong to any
program: the tokens before it begin one, and together with it they begin none. -/
theorem viable_until_found {tokens : List Token} {expected : Expectation} {found : Token}
    (herror : Program.ofTokens tokens = .error ⟨expected, found⟩)
    (hexpected : expected ≠ .lowerExpression) :
    ∃ index, (withEnd tokens)[index]? = some found ∧
      IsViable ((withEnd tokens).take index) ∧ ¬ IsViable ((withEnd tokens).take (index + 1)) := by
  obtain ⟨rest, hread, hfound⟩ := exists_failure_of_error herror
  obtain ⟨taken, hwords, hviable⟩ := exists_isViable_of_failure hread
  obtain ⟨⟨others, htokens⟩, hnext⟩ := withEnd_eq_of_words hwords hfound
  refine ⟨taken.length, ?_, ?_, ?_⟩
  · rw [htokens]
    simp
  · rwa [htokens, List.take_left]
  · have htake : (withEnd tokens).take (taken.length + 1) = taken ++ [found] := by
      rw [htokens, List.take_length_add_append]
      rfl
    rw [htake]
    exact not_isViable_of_failure hread hwords hexpected hnext

/-- The words of a function whose statement lacks its semicolon. -/
def unfinished : List Token :=
  [⟨.intKeyword, "int", 0⟩, ⟨.identifier, "main", 4⟩, ⟨.leftParen, "(", 8⟩,
    ⟨.rightParen, ")", 9⟩, ⟨.leftBrace, "\x7b", 11⟩, ⟨.returnKeyword, "return", 13⟩,
    ⟨.number, "0", 20⟩, ⟨.rightBrace, "\x7d", 22⟩]

theorem ofTokens_unfinished :
    Program.ofTokens unfinished =
      .error ⟨.tokenAt .semicolon .afterReturn, ⟨.rightBrace, "\x7d", 22⟩⟩ := by
  have hzero : Forms (.sum (.number 0)) [⟨.number, "0", 20⟩] 0 :=
    .sumOfProduct (.productOfPrimary (.number rfl (by decide)))
  have hvalue : Syntax.expression .standard [⟨.number, "0", 20⟩, ⟨.rightBrace, "\x7d", 22⟩] =
      .ok (.number 0, [⟨.rightBrace, "\x7d", 22⟩]) :=
    hzero.expression (by decide) (by decide) (nextIsNot_cons rfl)
  have hreturn : Syntax.statement .standard
      [⟨.returnKeyword, "return", 13⟩, ⟨.number, "0", 20⟩, ⟨.rightBrace, "\x7d", 22⟩] =
        .error ⟨.tokenAt .semicolon .afterReturn, [⟨.rightBrace, "\x7d", 22⟩]⟩ := by
    rw [statement_return (nextIsNot_cons rfl), hvalue]
    rfl
  have hwords : Syntax.words unfinished = unfinished := by decide
  rw [Program.ofTokens, hwords]
  simp [unfinished, functions_cons, Syntax.function, expect, name, body_cons, hreturn]

theorem viable_until_missing_semicolon :
    ∃ index, (withEnd unfinished)[index]? = some ⟨.rightBrace, "\x7d", 22⟩ ∧
      IsViable ((withEnd unfinished).take index) ∧
      ¬ IsViable ((withEnd unfinished).take (index + 1)) :=
  viable_until_found ofTokens_unfinished (by decide)

end Grammar

end TinyC
