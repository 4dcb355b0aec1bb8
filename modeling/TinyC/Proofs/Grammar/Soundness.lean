import TinyC.Proofs.Grammar.Reading

/-!
# What was read follows the grammar

Every reader of `Syntax` takes a beginning of the words.  When it succeeds, this
beginning forms the phrase that was looked for, with the tree that is returned,
and within the limits.  When it fails, the words before the failure can be
completed to such a phrase if the limits are left aside.

## Strategy

`Meets` says both of one outcome.  It passes through readers in a row
(`meets_bind`) and through a word that was looked at (`meets_cons`), so each
reader needs its own steps alone, and a failure asks for the words that would
have completed the phrase from there.
-/

namespace TinyC.Grammar

open Syntax

variable {α β : Type}

/-! ## Outcomes -/

/-- The words that were read are good for the value; those before a failure begin a whole. -/
def Meets (good : α → List Token → Prop) (whole : List Token → Prop) (words : List Token) :
    Except Failure (α × List Token) → Prop
  | .ok (value, rest) => ∃ taken, words = taken ++ rest ∧ good value taken
  | .error failure =>
      ∃ taken completion, words = taken ++ failure.rest ∧ whole (taken ++ completion)

variable {good : α → List Token → Prop} {whole : List Token → Prop} {words : List Token}

/-- Every beginning of one kind of whole begins another. -/
theorem Meets.complete {part : List Token → Prop} {outcome : Except Failure (α × List Token)}
    (hmeets : Meets good part words outcome)
    (hpart : ∀ taken, part taken → ∃ completion, whole (taken ++ completion)) :
    Meets good whole words outcome := by
  cases outcome with
  | ok result => exact hmeets
  | error failure =>
      obtain ⟨taken, completion, hwords, htaken⟩ := hmeets
      obtain ⟨further, hwhole⟩ := hpart _ htaken
      exact ⟨taken, completion ++ further, hwords, by rwa [← List.append_assoc]⟩

/-- What was read before only extends the words that were taken. -/
theorem meets_append (before : List Token) {rest : List Token}
    {outcome : Except Failure (α × List Token)}
    (hmeets : Meets (fun value taken => good value (before ++ taken))
      (fun taken => whole (before ++ taken)) rest outcome) :
    Meets good whole (before ++ rest) outcome := by
  cases outcome with
  | ok result =>
      obtain ⟨taken, rfl, hgood⟩ := hmeets
      exact ⟨before ++ taken, by rw [List.append_assoc], hgood⟩
  | error failure =>
      obtain ⟨taken, completion, rfl, hwhole⟩ := hmeets
      exact ⟨before ++ taken, completion, by rw [List.append_assoc], by rwa [List.append_assoc]⟩

theorem meets_cons {word : Token} {rest : List Token} {outcome : Except Failure (α × List Token)}
    (hmeets : Meets (fun value taken => good value (word :: taken))
      (fun taken => whole (word :: taken)) rest outcome) :
    Meets good whole (word :: rest) outcome :=
  meets_append [word] hmeets

/-- The second of two readers in a row goes on where the first one stopped. -/
theorem meets_bind {goodNext : β → List Token → Prop} {first : Except Failure (α × List Token)}
    {next : α × List Token → Except Failure (β × List Token)}
    (hfirst : Meets good whole words first)
    (hnext : ∀ value taken rest, good value taken →
      Meets (fun result after => goodNext result (taken ++ after))
        (fun after => whole (taken ++ after)) rest (next (value, rest))) :
    Meets goodNext whole words (first >>= next) := by
  cases first with
  | error failure => exact hfirst
  | ok result =>
      obtain ⟨value, rest⟩ := result
      obtain ⟨taken, rfl, hgood⟩ := hfirst
      exact meets_append taken (hnext value taken rest hgood)

theorem meets_ok {value : α} (hgood : good value []) :
    Meets good whole words (.ok (value, words)) :=
  ⟨[], rfl, hgood⟩

theorem meets_error {expected : Expectation} (completion : List Token)
    (hwhole : whole completion) : Meets good whole words (.error ⟨expected, words⟩) :=
  ⟨[], completion, rfl, hwhole⟩

theorem meets_expect {kind : Token.Kind} {expected : Expectation} (completion : List Token)
    (hwhole : whole completion) :
    Meets (fun word taken => taken = [word] ∧ word.kind = kind) whole words
      (expect kind expected words) := by
  cases words with
  | nil => exact meets_error completion hwhole
  | cons word rest =>
      rw [expect]
      split
      · exact ⟨[word], rfl, rfl, by assumption⟩
      · exact meets_error completion hwhole

theorem meets_name {expected : Expectation} (completion : List Token)
    (hwhole : whole completion) :
    Meets (fun lexeme taken => ∃ word : Token, taken = [word] ∧ word.kind = .identifier ∧
      word.lexeme = lexeme) whole words (name expected words) := by
  refine meets_bind (meets_expect completion hwhole) ?_
  rintro word _ rest ⟨rfl, hkind⟩
  exact meets_ok ⟨word, rfl, hkind, rfl⟩

/-! ## Completions -/

/-- Some word of a kind, with which a beginning can be completed. -/
def someWord (kind : Token.Kind) : Token := ⟨kind, "", 0⟩

/-- The words form something of a sort, whatever its value. -/
def IsWhole (forms : α → List Token → Nat → Prop) (words : List Token) : Prop :=
  ∃ value nesting, forms value words nesting

/-- The words form a phrase of an expression, of the given shape. -/
abbrev FormsShape (shape : Expr → Phrase) (tree : Expr) : List Token → Nat → Prop :=
  Forms (shape tree)

theorem isWhole_primary : IsWhole (FormsShape .primary) [someWord .string] :=
  ⟨_, _, .string rfl⟩

theorem isWhole_sum : IsWhole (FormsShape .sum) [someWord .string] :=
  ⟨_, _, .sumOfProduct (.productOfPrimary (.string rfl))⟩

/-! ## Expressions -/

/-- The words form a phrase with the measured tree, which is not too high, and not nested
too deep. -/
structure Measures (limit remaining : Nat) (shape : Expr → Phrase) (measured : Measured)
    (words : List Token) : Prop where
  height_eq : measured.height = measured.expression.height
  height_le : measured.height ≤ limit
  forms : ∃ nesting < remaining, Forms (shape measured.expression) words nesting

theorem Measures.isWhole {limit remaining : Nat} {shape : Expr → Phrase} {measured : Measured}
    {words : List Token} (hmeasures : Measures limit remaining shape measured words) :
    IsWhole (FormsShape shape) words := by
  obtain ⟨nesting, _, hforms⟩ := hmeasures.forms
  exact ⟨_, nesting, hforms⟩

/-- A reader of expressions of the given shape follows the grammar. -/
def Follows (limit remaining : Nat) (shape : Expr → Phrase)
    (read : List Token → Except Failure (Measured × List Token)) : Prop :=
  ∀ words, Meets (Measures limit remaining shape) (IsWhole (FormsShape shape)) words
    (read words)

variable {limit remaining : Nat} {inner outer : Expr → Phrase}

/-- A loop over the operators of a layer extends what it started with to the left. -/
theorem meets_operations {operator? : Token.Kind → Option Operator} {operand : Rule Measured}
    (hoperand : Follows limit remaining inner operand.read)
    (hsign : ∀ {operator left right before after sign m n},
      Forms (outer left) before m → operator? sign.kind = some operator →
        Forms (inner right) after n →
        Forms (outer (.binary operator left right)) (before ++ sign :: after) (max m n))
    (left : Measured) (words : List Token) :
    ∀ before, Measures limit remaining outer left before →
      Meets (fun measured taken => Measures limit remaining outer measured (before ++ taken))
        (fun taken => IsWhole (FormsShape outer) (before ++ taken)) words
        (operations limit operator? operand left words) := by
  fun_induction operations limit operator? operand left words with
  | case1 left =>
      intro before hleft
      exact meets_ok (by simpa using hleft)
  | case2 left word tail hnone =>
      intro before hleft
      exact meets_ok (by simpa using hleft)
  | case3 left word tail operator hsome failure hright =>
      intro before hleft
      obtain ⟨m, hm, hbefore⟩ := hleft.forms
      have hfailure := hoperand tail
      rw [hright] at hfailure
      obtain ⟨taken, completion, hwords, tree, n, hafter⟩ := hfailure
      exact ⟨word :: taken, completion, by rw [hwords]; rfl, _, _, hsign hbefore hsome hafter⟩
  | case4 left word tail operator hsome right after hright ih =>
      intro before hleft
      obtain ⟨m, hm, hbefore⟩ := hleft.forms
      have hoperand := hoperand tail
      rw [hright] at hoperand
      obtain ⟨taken, rfl, hmeasures⟩ := hoperand
      obtain ⟨n, hn, htaken⟩ := hmeasures.forms
      have hforms := hsign hbefore hsome htaken
      by_cases hhigh : limit < max left.height right.height + 1
      · -- The tree is too high, but its words are whole.
        rw [checkHeight, if_pos hhigh]
        exact ⟨word :: taken, [], rfl, _, _, by simpa using hforms⟩
      · rw [checkHeight, if_neg hhigh, ok_bind]
        have hloop := ih (max left.height right.height + 1) (before ++ word :: taken)
          ⟨by rw [hleft.height_eq, hmeasures.height_eq, Expr.height], Nat.not_lt.1 hhigh,
            max m n, by omega, hforms⟩
        exact meets_append (word :: taken) (by simpa using hloop)

/-- A layer of operators follows the grammar if its operands do. -/
theorem follows_layer {operator? : Token.Kind → Option Operator} {operand : Rule Measured}
    (hoperand : Follows limit remaining inner operand.read)
    (hsingle : ∀ {tree words nesting}, Forms (inner tree) words nesting →
      Forms (outer tree) words nesting)
    (hsign : ∀ {operator left right before after sign m n},
      Forms (outer left) before m → operator? sign.kind = some operator →
        Forms (inner right) after n →
        Forms (outer (.binary operator left right)) (before ++ sign :: after) (max m n)) :
    Follows limit remaining outer (layer limit operator? operand).read := by
  intro words
  have hfirst := hoperand words
  simp only [layer]
  cases houtcome : operand.read words with
  | error failure =>
      rw [houtcome] at hfirst
      obtain ⟨taken, completion, hwords, tree, nesting, hforms⟩ := hfirst
      exact ⟨taken, completion, hwords, tree, nesting, hsingle hforms⟩
  | ok result =>
      obtain ⟨left, rest⟩ := result
      rw [houtcome] at hfirst
      obtain ⟨taken, rfl, hleft⟩ := hfirst
      obtain ⟨nesting, hle, hforms⟩ := hleft.forms
      exact meets_append taken (meets_operations hoperand hsign left rest taken
        ⟨hleft.height_eq, hleft.height_le, nesting, hle, hsingle hforms⟩)

/-! ## Arguments and calls -/

/-- The words form the arguments of a call, of which there is at least one. -/
def AreWhole (words : List Token) : Prop :=
  ∃ trees nesting, trees ≠ [] ∧ Forms (.arguments trees) words nesting

theorem IsWhole.singleton {words : List Token} (hwhole : IsWhole (FormsShape .sum) words) :
    AreWhole words := by
  obtain ⟨tree, nesting, hforms⟩ := hwhole
  exact ⟨[tree], nesting + 1, by simp, .lastArgument hforms⟩

theorem AreWhole.cons {before after : List Token} {comma : Token} (hafter : AreWhole after)
    (hbefore : IsWhole (FormsShape .sum) before) (hcomma : comma.kind = .comma) :
    AreWhole (before ++ comma :: after) := by
  obtain ⟨tree, m, hforms⟩ := hbefore
  obtain ⟨trees, n, hne, hothers⟩ := hafter
  exact ⟨tree :: trees, max (m + 1) n, by simp, .moreArguments hforms hcomma hothers hne⟩

/-- The words form the arguments of a call with the measured trees. -/
structure MeasuresAll (limit remaining : Nat) (arguments : List Measured) (words : List Token) :
    Prop where
  height_eq : ∀ argument ∈ arguments, argument.height = argument.expression.height
  height_le : ∀ argument ∈ arguments, argument.height ≤ limit
  forms : ∃ nesting < remaining + 1,
    Forms (.arguments (arguments.map Measured.expression)) words nesting

theorem Measures.singleton {first : Measured} {words : List Token}
    (hfirst : Measures limit remaining .sum first words) :
    MeasuresAll limit remaining [first] words := by
  obtain ⟨nesting, hle, hforms⟩ := hfirst.forms
  exact ⟨by simpa using hfirst.height_eq, by simpa using hfirst.height_le, nesting + 1, by omega,
    .lastArgument hforms⟩

theorem MeasuresAll.cons {first next : Measured} {others : List Measured}
    {before after : List Token} {comma : Token}
    (hothers : MeasuresAll limit remaining (next :: others) after)
    (hfirst : Measures limit remaining .sum first before) (hcomma : comma.kind = .comma) :
    MeasuresAll limit remaining (first :: next :: others) (before ++ comma :: after) := by
  obtain ⟨m, hm, hforms⟩ := hfirst.forms
  obtain ⟨n, hn, hafter⟩ := hothers.forms
  refine ⟨?_, ?_, max (m + 1) n, by omega, .moreArguments hforms hcomma hafter (by simp)⟩
  · exact List.forall_mem_cons.2 ⟨hfirst.height_eq, hothers.height_eq⟩
  · exact List.forall_mem_cons.2 ⟨hfirst.height_le, hothers.height_le⟩

/-- Further arguments extend a first one. -/
theorem meets_moreArguments {nested : Rule Measured}
    (hnested : Follows limit remaining .sum nested.read) (words : List Token) :
    ∀ first before, Measures limit remaining .sum first before →
      Meets (fun arguments taken => MeasuresAll limit remaining (first :: arguments)
          (before ++ taken))
        (fun taken => AreWhole (before ++ taken)) words (moreArguments nested words) := by
  fun_induction moreArguments nested words with
  | case1 =>
      intro first before hfirst
      exact meets_ok (by simpa using hfirst.singleton)
  | case2 word tail hcomma failure hnext =>
      intro first before hfirst
      have hfailure := hnested tail
      rw [hnext] at hfailure
      obtain ⟨taken, completion, rfl, hwhole⟩ := hfailure
      exact ⟨word :: taken, completion, rfl, hwhole.singleton.cons hfirst.isWhole hcomma⟩
  | case3 word tail hcomma next after hnext ih =>
      intro first before hfirst
      have hmeasures := hnested tail
      rw [hnext] at hmeasures
      obtain ⟨taken, rfl, hmeasures⟩ := hmeasures
      have hothers := ih next taken hmeasures
      refine meets_append (word :: taken) (meets_bind (hothers.complete ?_) ?_)
      · intro final hwhole
        exact ⟨[], by simpa using hwhole.cons hfirst.isWhole hcomma⟩
      · intro others final rest hall
        exact meets_ok (by simpa using hall.cons hfirst hcomma)
  | case4 word tail hcomma =>
      intro first before hfirst
      exact meets_ok (by simpa using hfirst.singleton)

/-- The arguments of a call, of which there may be none. -/
theorem meets_callArguments {nested : Rule Measured}
    (hnested : Follows limit remaining .sum nested.read) (words : List Token) :
    Meets (MeasuresAll limit remaining)
      (fun taken => ∃ trees nesting, Forms (.arguments trees) taken nesting) words
      (callArguments nested words) := by
  unfold callArguments
  split
  · exact meets_ok ⟨by simp, by simp, 0, by omega, .noArguments⟩
  · refine meets_bind ((hnested words).complete ?_) ?_
    · rintro taken ⟨tree, nesting, hforms⟩
      exact ⟨[], [tree], nesting + 1, by simpa using .lastArgument hforms⟩
    · intro first taken rest hfirst
      refine meets_bind ((meets_moreArguments hnested rest first taken hfirst).complete ?_) ?_
      · rintro after ⟨trees, nesting, _, hforms⟩
        exact ⟨[], trees, nesting, by simpa using hforms⟩
      · intro others after rest hall
        exact meets_ok (by simpa using hall)

/-- The height that is known of arguments is that of their trees. -/
theorem greatestHeight_eq {arguments : List Measured}
    (heq : ∀ argument ∈ arguments, argument.height = argument.expression.height) :
    greatestHeight arguments = Expr.greatestHeight (arguments.map Measured.expression) := by
  induction arguments with
  | nil => rfl
  | cons argument rest ih =>
      obtain ⟨hfirst, hrest⟩ := List.forall_mem_cons.1 heq
      rw [List.map_cons, Expr.greatestHeight, ← ih hrest, ← hfirst]
      rfl

/-- What a name begins: the name itself, or a call. -/
theorem meets_nameOrCall {nested : Rule Measured}
    (hnested : Follows limit remaining .sum nested.read) (hlimit : 0 < limit) {name : Token}
    (hname : name.kind = .identifier) (words : List Token) :
    Meets (fun measured taken => Measures limit (remaining + 1) .primary measured (name :: taken))
      (fun taken => IsWhole (FormsShape .primary) (name :: taken)) words
      (nameOrCall limit nested name.lexeme words) := by
  unfold nameOrCall
  split
  · rename_i lexeme offset rest
    have hopening : (⟨.leftParen, lexeme, offset⟩ : Token).kind = .leftParen := rfl
    refine meets_cons (meets_bind ((meets_callArguments hnested rest).complete ?_) ?_)
    · rintro taken ⟨trees, nesting, hforms⟩
      exact ⟨[someWord .rightParen], _, _, .call hname hopening hforms rfl⟩
    · rintro arguments taken rest hall
      obtain ⟨nesting, hle, hforms⟩ := hall.forms
      refine meets_bind (meets_expect [someWord .rightParen]
        ⟨_, _, .call hname hopening hforms rfl⟩) ?_
      rintro closing _ rest ⟨rfl, hclosing⟩
      dsimp only
      have hcall := Forms.call hname hopening hforms hclosing
      by_cases hhigh : limit < greatestHeight arguments + 1
      · -- The failure comes after the closing parenthesis, where the call is whole.
        rw [checkHeight, if_pos hhigh, error_bind]
        exact meets_error [] ⟨_, _, by simpa using hcall⟩
      · rw [checkHeight, if_neg hhigh, ok_bind]
        refine meets_ok ⟨?_, Nat.not_lt.1 hhigh, nesting, hle, by simpa using hcall⟩
        rw [Expr.height, greatestHeight_eq hall.height_eq]
  · exact meets_ok ⟨by rw [Expr.height], hlimit, 0, by omega, .name hname⟩

/-! ## Nested expressions -/

theorem follows_primary {nested : Rule Measured}
    (hnested : Follows limit remaining .sum nested.read) (hlimit : 0 < limit) :
    Follows limit (remaining + 1) .primary (primary limit nested) := by
  intro words
  unfold primary
  split
  · rename_i lexeme offset rest
    cases hvalue : Numeral.toInt64? lexeme.toList with
    | none => exact meets_error _ isWhole_primary
    | some value =>
        exact meets_cons (meets_ok ⟨by rw [Expr.height], hlimit, 0, by omega, .number rfl hvalue⟩)
  · rename_i lexeme offset rest
    have hword : (⟨.string, lexeme, offset⟩ : Token).kind = .string := rfl
    exact meets_cons (meets_ok ⟨by rw [Expr.height], hlimit, 0, by omega, .string hword⟩)
  · rename_i lexeme offset rest
    have hname : (⟨.identifier, lexeme, offset⟩ : Token).kind = .identifier := rfl
    exact meets_cons (meets_nameOrCall hnested hlimit hname rest)
  · rename_i lexeme offset rest
    have hopening : (⟨.leftParen, lexeme, offset⟩ : Token).kind = .leftParen := rfl
    refine meets_cons (meets_bind ((hnested rest).complete ?_) ?_)
    · rintro taken ⟨tree, nesting, hforms⟩
      exact ⟨[someWord .rightParen], _, _, .group hopening hforms rfl⟩
    · intro inner taken rest hinner
      obtain ⟨nesting, hle, hforms⟩ := hinner.forms
      refine meets_bind (meets_expect [someWord .rightParen]
        ⟨_, _, .group hopening hforms rfl⟩) ?_
      rintro closing _ rest ⟨rfl, hclosing⟩
      exact meets_ok ⟨hinner.height_eq, hinner.height_le, nesting + 1, by omega,
        by simpa using Forms.group hopening hforms hclosing⟩
  · exact meets_error _ isWhole_primary

theorem follows_sum {nested : Rule Measured} (hnested : Follows limit remaining .sum nested.read)
    (hlimit : 0 < limit) : Follows limit (remaining + 1) .sum (sum limit nested).read := by
  have hproduct : Follows limit (remaining + 1) .product (product limit nested).read := by
    refine follows_layer (follows_primary hnested hlimit) .productOfPrimary ?_
    intro operator left right before after sign m n hleft hsign hright
    obtain ⟨htight, hkind⟩ := multiplicative?_eq_some_iff.1 hsign
    exact .productOfSign hleft htight hkind hright
  refine follows_layer hproduct .sumOfProduct ?_
  intro operator left right before after sign m n hleft hsign hright
  obtain ⟨hloose, hkind⟩ := additive?_eq_some_iff.1 hsign
  exact .sumOfSign hleft hloose hkind hright

theorem follows_nested (hlimit : 0 < limit) :
    Follows limit remaining .sum (nested limit remaining).read := by
  induction remaining with
  | zero =>
      -- No parenthesis may be opened any more, but without limits an expression could follow.
      exact fun words => meets_error _ isWhole_sum
  | succ remaining ih => exact follows_sum ih hlimit

/-! ## Statements -/

/-- The words form the value, and its expressions are within the limits. -/
structure FormsWithin (limits : Limits) (expressions : α → List Expr)
    (forms : α → List Token → Nat → Prop) (value : α) (words : List Token) : Prop where
  height_le : ∀ expression ∈ expressions value, expression.height ≤ limits.height
  forms : ∃ nesting < limits.nesting, forms value words nesting

variable (limits : Limits)

theorem meets_expression (words : List Token) :
    Meets (FormsWithin limits (fun tree => [tree]) (FormsShape .sum)) (IsWhole (FormsShape .sum))
      words (expression limits words) := by
  refine meets_bind (follows_nested limits.height_pos words) ?_
  intro measured taken rest hmeasures
  refine meets_ok ⟨?_, by simpa using hmeasures.forms⟩
  simpa [← hmeasures.height_eq] using hmeasures.height_le

theorem meets_endStatement {good : Stmt → List Token → Prop} {place : Place} {statement : Stmt}
    (hgood : ∀ semicolon : Token, semicolon.kind = .semicolon → good statement [semicolon])
    (hwhole : whole [someWord .semicolon]) :
    Meets good whole words (endStatement place statement words) := by
  refine meets_bind (meets_expect _ hwhole) ?_
  rintro semicolon _ rest ⟨rfl, hsemicolon⟩
  exact meets_ok (hgood semicolon hsemicolon)

/-- A statement that ends after an expression. -/
theorem meets_expression_endStatement {place : Place} (before : List Token)
    (statement : Expr → Stmt) (hexpressions : ∀ tree, (statement tree).expressions = [tree])
    (hforms : ∀ {tree words nesting} {semicolon : Token}, Forms (.sum tree) words nesting →
      semicolon.kind = .semicolon →
        FormsStatement (statement tree) (before ++ (words ++ [semicolon])) nesting) :
    Meets (fun value taken => FormsWithin limits Stmt.expressions FormsStatement value
        (before ++ taken))
      (fun taken => IsWhole FormsStatement (before ++ taken)) words
      (expression limits words >>= fun result =>
        endStatement place (statement result.1) result.2) := by
  refine meets_bind ((meets_expression limits words).complete ?_) ?_
  · rintro taken ⟨tree, nesting, htree⟩
    exact ⟨[someWord .semicolon], _, _, hforms htree rfl⟩
  · intro tree taken rest hwithin
    obtain ⟨nesting, hlt, htree⟩ := hwithin.forms
    refine meets_endStatement (fun semicolon hsemicolon => ⟨?_, nesting, hlt, ?_⟩) ?_
    · simpa [hexpressions] using hwithin.height_le
    · exact hforms htree hsemicolon
    · exact ⟨_, _, hforms htree rfl⟩

theorem meets_statement (words : List Token) :
    Meets (FormsWithin limits Stmt.expressions FormsStatement) (IsWhole FormsStatement) words
      (statement limits words) := by
  unfold statement
  split
  · rename_i lexeme offset rest
    have hint : (⟨.intKeyword, lexeme, offset⟩ : Token).kind = .intKeyword := rfl
    refine meets_cons (meets_bind (meets_name [someWord .identifier, someWord .semicolon]
      ⟨_, _, .declare hint rfl rfl⟩) ?_)
    rintro _ _ rest ⟨name, rfl, hname, rfl⟩
    dsimp only
    split
    · rename_i lexeme offset rest
      have hassign : (⟨.assign, lexeme, offset⟩ : Token).kind = .assign := rfl
      exact meets_cons (meets_expression_endStatement limits [_, _, _]
        (fun init => .declare _ (some init)) (fun _ => rfl) (.declareWith hint hname hassign))
    · refine meets_endStatement (fun semicolon hsemicolon => ⟨?_, 0, limits.nesting_pos, ?_⟩) ?_
      · simp [Stmt.expressions]
      · exact .declare hint hname hsemicolon
      · exact ⟨_, _, .declare hint hname rfl⟩
  · rename_i lexeme offset rest
    have hreturn : (⟨.returnKeyword, lexeme, offset⟩ : Token).kind = .returnKeyword := rfl
    split
    · refine meets_cons (meets_endStatement
        (fun semicolon hsemicolon => ⟨?_, 0, limits.nesting_pos, ?_⟩) ?_)
      · simp [Stmt.expressions]
      · exact .returns hreturn hsemicolon
      · exact ⟨_, _, .returns hreturn rfl⟩
    · exact meets_cons (meets_expression_endStatement limits [_]
        (fun value => .returns (some value)) (fun _ => rfl) (.returnsValue hreturn))
  · rename_i name start lexeme offset rest
    have hname : (⟨.identifier, name, start⟩ : Token).kind = .identifier := rfl
    have hassign : (⟨.assign, lexeme, offset⟩ : Token).kind = .assign := rfl
    exact meets_cons (meets_cons (meets_expression_endStatement limits [_, _]
      (fun value => .assign _ value) (fun _ => rfl) (.assign hname hassign)))
  · exact meets_expression_endStatement limits [] .evaluate (fun _ => rfl) .evaluate

/-! ## Functions and programs -/

/-- The words form statements and the brace that ends the body. -/
def FormsBody (statements : List Stmt) (words : List Token) (nesting : Nat) : Prop :=
  ∃ inner stop, words = inner ++ [stop] ∧ stop.kind = .rightBrace ∧
    FormsEach FormsStatement statements inner nesting

theorem FormsBody.cons {statement : Stmt} {statements : List Stmt} {before after : List Token}
    {m n : Nat} (hafter : FormsBody statements after n)
    (hbefore : FormsStatement statement before m) :
    FormsBody (statement :: statements) (before ++ after) (max m n) := by
  obtain ⟨inner, stop, rfl, hstop, hinner⟩ := hafter
  exact ⟨before ++ inner, stop, by rw [List.append_assoc], hstop, .cons hbefore hinner⟩

theorem formsBody_nil {stop : Token} (hstop : stop.kind = .rightBrace) : FormsBody [] [stop] 0 :=
  ⟨[], stop, rfl, hstop, .nil⟩

variable {limits} in
/-- An item and further ones within the limits are within the limits together. -/
theorem FormsWithin.cons {expressions : α → List Expr} {forms : α → List Token → Nat → Prop}
    {formsAll : List α → List Token → Nat → Prop} {item : α} {items : List α}
    {before after : List Token}
    (hitem : FormsWithin limits expressions forms item before)
    (hitems : FormsWithin limits (List.flatMap expressions) formsAll items after)
    (hcons : ∀ {m n}, forms item before m → formsAll items after n →
      formsAll (item :: items) (before ++ after) (max m n)) :
    FormsWithin limits (List.flatMap expressions) formsAll (item :: items) (before ++ after) := by
  obtain ⟨m, hm, hbefore⟩ := hitem.forms
  obtain ⟨n, hn, hafter⟩ := hitems.forms
  refine ⟨?_, max m n, by omega, hcons hbefore hafter⟩
  rw [List.flatMap_cons]
  exact List.forall_mem_append.2 ⟨hitem.height_le, hitems.height_le⟩

theorem meets_body (words : List Token) :
    Meets (FormsWithin limits (List.flatMap Stmt.expressions) FormsBody) (IsWhole FormsBody) words
      (body limits words) := by
  fun_induction body limits words with
  | case1 => exact meets_error [someWord .rightBrace] ⟨_, _, formsBody_nil rfl⟩
  | case2 lexeme offset rest =>
      exact meets_cons (meets_ok ⟨by simp, 0, limits.nesting_pos, formsBody_nil rfl⟩)
  | case3 word tail hbrace failure hfirst =>
      have hmeets := meets_statement limits (word :: tail)
      rw [hfirst] at hmeets
      obtain ⟨taken, completion, hwords, statement, nesting, hforms⟩ := hmeets
      -- The statement is completed first, and then a brace ends the body.
      refine ⟨taken, completion ++ [someWord .rightBrace], hwords, [statement], max nesting 0, ?_⟩
      rw [← List.append_assoc]
      exact (formsBody_nil rfl).cons hforms
  | case4 word tail hbrace first after hfirst ih =>
      have hmeets := meets_statement limits (word :: tail)
      rw [hfirst] at hmeets
      obtain ⟨taken, hwords, hstatement⟩ := hmeets
      rw [hwords]
      obtain ⟨m, _, hforms⟩ := hstatement.forms
      refine meets_append taken (meets_bind (ih.complete ?_) ?_)
      · rintro others ⟨statements, nesting, hothers⟩
        exact ⟨[], _, _, by simpa using hothers.cons hforms⟩
      · intro statements others rest hothers
        exact meets_ok (by simpa using hstatement.cons hothers fun hm hn => hn.cons hm)

theorem FormsBody.function {int name opening closing start : Token} {body : List Stmt}
    {words : List Token} {nesting : Nat} (hbody : FormsBody body words nesting)
    (hint : int.kind = .intKeyword) (hname : name.kind = .identifier)
    (hopening : opening.kind = .leftParen) (hclosing : closing.kind = .rightParen)
    (hstart : start.kind = .leftBrace) :
    FormsFunction ⟨name.lexeme, body⟩ (int :: name :: opening :: closing :: start :: words)
      nesting := by
  obtain ⟨inner, stop, rfl, hstop, hinner⟩ := hbody
  exact .intro hint hname hopening hclosing hstart hinner hstop

theorem meets_function (words : List Token) :
    Meets (FormsWithin limits Function.expressions FormsFunction) (IsWhole FormsFunction) words
      (function limits words) := by
  -- Up to the body, a function with no statements completes what was read.
  have hempty : FormsBody [] [someWord .rightBrace] 0 := formsBody_nil rfl
  refine meets_bind (meets_expect [someWord .intKeyword, someWord .identifier, someWord .leftParen,
    someWord .rightParen, someWord .leftBrace, someWord .rightBrace]
    ⟨_, _, hempty.function rfl rfl rfl rfl rfl⟩) ?_
  rintro int _ rest ⟨rfl, hint⟩
  refine meets_bind (meets_name [someWord .identifier, someWord .leftParen, someWord .rightParen,
    someWord .leftBrace, someWord .rightBrace] ⟨_, _, hempty.function hint rfl rfl rfl rfl⟩) ?_
  rintro _ _ rest ⟨name, rfl, hname, rfl⟩
  refine meets_bind (meets_expect [someWord .leftParen, someWord .rightParen, someWord .leftBrace,
    someWord .rightBrace] ⟨_, _, hempty.function hint hname rfl rfl rfl⟩) ?_
  rintro opening _ rest ⟨rfl, hopening⟩
  refine meets_bind (meets_expect [someWord .rightParen, someWord .leftBrace, someWord .rightBrace]
    ⟨_, _, hempty.function hint hname hopening rfl rfl⟩) ?_
  rintro closing _ rest ⟨rfl, hclosing⟩
  refine meets_bind (meets_expect [someWord .leftBrace, someWord .rightBrace]
    ⟨_, _, hempty.function hint hname hopening hclosing rfl⟩) ?_
  rintro start _ rest ⟨rfl, hstart⟩
  refine meets_bind ((meets_body limits rest).complete ?_) ?_
  · rintro taken ⟨statements, nesting, hbody⟩
    exact ⟨[], _, _, by simpa using hbody.function hint hname hopening hclosing hstart⟩
  · intro statements taken rest hwithin
    obtain ⟨nesting, hlt, hbody⟩ := hwithin.forms
    exact meets_ok ⟨hwithin.height_le, nesting, hlt,
      by simpa using hbody.function hint hname hopening hclosing hstart⟩

theorem meets_functionsToEnd (words : List Token) :
    Meets (FormsWithin limits (List.flatMap Function.expressions) (FormsEach FormsFunction))
      (IsWhole (FormsEach FormsFunction)) words (functionsToEnd limits words) := by
  unfold functionsToEnd
  fun_induction functions limits words with
  | case1 => exact meets_ok ⟨by simp, 0, limits.nesting_pos, .nil⟩
  | case2 word tail failure hfirst =>
      have hmeets := meets_function limits (word :: tail)
      rw [hfirst] at hmeets
      obtain ⟨taken, completion, hwords, function, nesting, hforms⟩ := hmeets
      exact ⟨taken, completion, hwords, _, _, by simpa using FormsEach.cons hforms .nil⟩
  | case3 word tail first after hfirst ih =>
      have hmeets := meets_function limits (word :: tail)
      rw [hfirst] at hmeets
      obtain ⟨taken, hwords, hfunction⟩ := hmeets
      rw [hwords]
      obtain ⟨m, _, hforms⟩ := hfunction.forms
      refine meets_append taken ?_
      cases hothers : functions limits after with
      | error failure =>
          rw [hothers] at ih
          obtain ⟨others, completion, hafter, items, nesting, hitems⟩ := ih
          exact ⟨others, completion, hafter, _, _, .cons hforms hitems⟩
      | ok items =>
          rw [hothers] at ih
          obtain ⟨others, rfl, hitems⟩ := ih
          exact ⟨others, rfl, hfunction.cons hitems .cons⟩

end TinyC.Grammar
