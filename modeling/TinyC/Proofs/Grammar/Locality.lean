import TinyC.Proofs.Grammar.Reading

/-!
# What decides an outcome

The outcome of a reader is decided by the words that it took and the kind of the
one word after them: whatever else follows, and also with wider limits, it reads
the same value or fails in the same way.  There are two exceptions.  A failure at
a limit is kept only if the limits are, and whether an integer fits is told by
the word itself.

## Strategy

`Persists` compares one outcome with a second reader on all words that begin in
the same way.  Like the readers it is composed of steps, so there is one lemma
for each of them.  The second word of lookahead needs care: an expression after
a name is read from the name on, which was looked at before, and hence the layers
are compared from any words on that were already seen.
-/

namespace TinyC.Syntax

variable {α β : Type} {kept : Expectation → Prop} {words : List Token}

/-! ## The next word -/

/-- The next words are of one kind, or there are none. -/
def SameKind (other rest : List Token) : Prop :=
  other.head?.map Token.kind = rest.head?.map Token.kind

/-- The next words are of one kind, and if an integer has to fit, they are the same. -/
structure SameNext (expected : Expectation) (other rest : List Token) : Prop where
  kind : SameKind other rest
  head? : expected = .integerThatFits → other.head? = rest.head?

theorem SameNext.of_head? {expected : Expectation} {other rest : List Token}
    (hother : other.head? = rest.head?) : SameNext expected other rest :=
  ⟨congrArg (Option.map Token.kind) hother, fun _ => hother⟩

theorem SameKind.append {other rest : List Token} (taken : List Token)
    (hother : SameKind other rest) : SameKind (taken ++ other) (taken ++ rest) := by
  cases taken with
  | nil => exact hother
  | cons word taken => rfl

theorem SameKind.eq_nil {other : List Token} (hother : SameKind other []) : other = [] := by
  simpa [SameKind] using hother

theorem SameKind.exists_eq_cons {other rest : List Token} {word : Token}
    (hother : SameKind other (word :: rest)) :
    ∃ next others, other = next :: others ∧ next.kind = word.kind := by
  cases other with
  | nil => cases hother
  | cons next others => exact ⟨next, others, rfl, Option.some.inj hother⟩

theorem NextIsNot.congr {kinds : Token.Kind → Bool} {other rest : List Token}
    (hrest : NextIsNot kinds rest) (hother : SameKind other rest) : NextIsNot kinds other := by
  cases other with
  | nil => exact nextIsNot_nil
  | cons next others =>
      obtain ⟨word, after, rfl, hword⟩ := SameKind.exists_eq_cons (Eq.symm hother)
      exact nextIsNot_cons (hword ▸ hrest word rfl)

/-! ## Outcomes -/

/-- The second reader has the same outcome on all words that begin with those taken and go on with
a word of the same kind.  Of failures this is asked only if they are kept, and where an integer does
not fit the next word has to be the same. -/
def Persists (kept : Expectation → Prop) (second : List Token → Except Failure (α × List Token))
    (words : List Token) : Except Failure (α × List Token) → Prop
  | .ok (value, rest) => ∃ taken, words = taken ++ rest ∧
      ∀ other, SameKind other rest → second (taken ++ other) = .ok (value, other)
  | .error failure => kept failure.expected → ∃ taken, words = taken ++ failure.rest ∧
      ∀ other, SameNext failure.expected other failure.rest →
        second (taken ++ other) = .error ⟨failure.expected, other⟩

/-- A limit that may be wider than another one, but not if failures at a limit are kept. -/
structure Widens (kept : Expectation → Prop) (limit larger : Nat) : Prop where
  le : limit ≤ larger
  eq : kept .lowerExpression → larger = limit

theorem Widens.pred {limit larger : Nat} (hwidens : Widens kept (limit + 1) (larger + 1)) :
    Widens kept limit larger :=
  ⟨Nat.le_of_succ_le_succ hwidens.le, fun hkept => Nat.succ.inj (hwidens.eq hkept)⟩

/-- The readers need to agree only on words whose first ones are of one kind. -/
theorem Persists.congr {second third : List Token → Except Failure (α × List Token)}
    {outcome : Except Failure (α × List Token)} (hpersists : Persists kept second words outcome)
    (hthird : ∀ other, SameKind other words → third other = second other) :
    Persists kept third words outcome := by
  cases outcome with
  | ok result =>
      obtain ⟨taken, rfl, hsecond⟩ := hpersists
      refine ⟨taken, rfl, fun other hother => ?_⟩
      rw [hthird _ (hother.append taken), hsecond other hother]
  | error failure =>
      intro hkept
      obtain ⟨taken, rfl, hsecond⟩ := hpersists hkept
      refine ⟨taken, rfl, fun other hother => ?_⟩
      rw [hthird _ (hother.kind.append taken), hsecond other hother]

/-- Words before those that were read only extend what was taken. -/
theorem persists_append {second : List Token → Except Failure (α × List Token)}
    {rest : List Token} {outcome : Except Failure (α × List Token)} (before : List Token)
    (hpersists : Persists kept (fun other => second (before ++ other)) rest outcome) :
    Persists kept second (before ++ rest) outcome := by
  cases outcome with
  | ok result =>
      obtain ⟨taken, rfl, hsecond⟩ := hpersists
      refine ⟨before ++ taken, by rw [List.append_assoc], fun other hother => ?_⟩
      rw [List.append_assoc]
      exact hsecond other hother
  | error failure =>
      intro hkept
      obtain ⟨taken, hrest, hsecond⟩ := hpersists hkept
      refine ⟨before ++ taken, by rw [hrest, List.append_assoc], fun other hother => ?_⟩
      rw [List.append_assoc]
      exact hsecond other hother

theorem persists_cons {second : List Token → Except Failure (α × List Token)} {word : Token}
    {rest : List Token} {outcome : Except Failure (α × List Token)}
    (hpersists : Persists kept (fun other => second (word :: other)) rest outcome) :
    Persists kept second (word :: rest) outcome :=
  persists_append [word] hpersists

theorem persists_bind {first : Except Failure (α × List Token)}
    {next secondNext : α × List Token → Except Failure (β × List Token)}
    {second : List Token → Except Failure (α × List Token)}
    (hfirst : Persists kept second words first)
    (hnext : ∀ value rest, first = .ok (value, rest) →
      Persists kept (fun other => secondNext (value, other)) rest (next (value, rest))) :
    Persists kept (fun other => second other >>= secondNext) words (first >>= next) := by
  cases first with
  | error failure =>
      intro hkept
      obtain ⟨taken, hwords, hsecond⟩ := hfirst hkept
      refine ⟨taken, hwords, fun other hother => ?_⟩
      dsimp only
      rw [hsecond other hother, error_bind]
  | ok result =>
      obtain ⟨value, rest⟩ := result
      obtain ⟨taken, rfl, hsecond⟩ := hfirst
      -- What the first reader took is followed by the same word as before, so it reads the same.
      refine persists_append taken ((hnext value rest rfl).congr fun other hother => ?_)
      rw [hsecond other hother, ok_bind]

theorem persists_ok {second : List Token → Except Failure (α × List Token)} {value : α}
    (hsecond : ∀ other, SameKind other words → second other = .ok (value, other)) :
    Persists kept second words (.ok (value, words)) :=
  ⟨[], rfl, hsecond⟩

/-- A value may be changed after it was read. -/
theorem persists_map {first : Except Failure (α × List Token)}
    {second : List Token → Except Failure (α × List Token)} (change : α → β)
    (hfirst : Persists kept second words first) :
    Persists kept (fun other => second other >>= fun result => .ok (change result.1, result.2))
      words (first >>= fun result => .ok (change result.1, result.2)) :=
  persists_bind hfirst fun _ _ _ => persists_ok fun _ _ => rfl

theorem persists_error {second : List Token → Except Failure (α × List Token)}
    {expected : Expectation}
    (hsecond : kept expected → ∀ other, SameNext expected other words →
      second other = .error ⟨expected, other⟩) :
    Persists kept second words (.error ⟨expected, words⟩) :=
  fun hkept => ⟨[], rfl, hsecond hkept⟩

theorem persists_expect {kind : Token.Kind} {expected : Expectation} :
    Persists kept (expect kind expected) words (expect kind expected words) := by
  obtain hnext | ⟨found, lexeme, offset, rest, rfl, hkind⟩ :=
    nextIsNot_or (fun found => found = kind) words
  · rw [expect_of_nextIsNot hnext]
    exact persists_error fun _ other hother => expect_of_nextIsNot (hnext.congr hother.kind)
  · have hfound : found = kind := by simpa using hkind
    rw [expect_cons hfound]
    exact persists_cons (persists_ok fun other _ => expect_cons hfound)

theorem persists_name {expected : Expectation} :
    Persists kept (name expected) words (name expected words) :=
  persists_map Token.lexeme persists_expect

/-! ## Layers of operators -/

variable {limit larger : Nat} {first second : Rule Measured}

theorem persists_checkHeight {height : Nat} {next : Nat → Except Failure (α × List Token)}
    {secondNext : Nat → List Token → Except Failure (α × List Token)}
    (hlimit : Widens kept limit larger)
    (hnext : Persists kept (secondNext height) words (next height)) :
    Persists kept (fun other => checkHeight larger height other >>= fun height =>
        secondNext height other) words (checkHeight limit height words >>= next) := by
  rw [checkHeight]
  split
  · rename_i hheight
    -- This failure is kept only if the limits are the same.
    refine persists_error fun hkept other _ => ?_
    rw [hlimit.eq hkept, checkHeight, if_pos hheight, error_bind]
  · rename_i hheight
    refine hnext.congr fun other _ => ?_
    have hlow : ¬ larger < height := by
      have hle := hlimit.le
      omega
    rw [checkHeight, if_neg hlow, ok_bind]

variable {operator? : Token.Kind → Option Operator}

theorem persists_operations (hlimit : Widens kept limit larger)
    (hoperand : ∀ words, Persists kept second.read words (first.read words)) (left : Measured)
    (words : List Token) :
    Persists kept (operations larger operator? second left) words
      (operations limit operator? first left words) := by
  obtain hnext | ⟨kind, lexeme, offset, rest, hwords, hsign⟩ :=
    nextIsNot_or (fun kind => (operator? kind).isSome) words
  · rw [operations_of_nextIsNot hnext]
    exact persists_ok fun other hother => operations_of_nextIsNot (hnext.congr hother)
  · obtain ⟨operator, hoperator⟩ := Option.isSome_iff_exists.1 hsign
    rw [hwords, operations_sign hoperator]
    refine persists_cons (Persists.congr (persists_bind (hoperand rest)
      fun right after hright => ?_) fun other _ => operations_sign hoperator)
    dsimp only
    exact persists_checkHeight hlimit (persists_operations hlimit hoperand _ after)
termination_by words.length
decreasing_by
  have hshorter := first.shorter hright
  rw [hwords, List.length_cons]
  omega

/-- Layers persist, also from words on that were already seen. -/
theorem persists_layer (before : List Token) (hlimit : Widens kept limit larger)
    (hoperand : ∀ words, Persists kept second.read words (first.read words))
    (hbefore : Persists kept (fun other => second.read (before ++ other)) words
      (first.read (before ++ words))) :
    Persists kept (fun other => (layer larger operator? second).read (before ++ other)) words
      ((layer limit operator? first).read (before ++ words)) := by
  simp only [layer_read]
  exact persists_bind hbefore fun left rest _ => persists_operations hlimit hoperand left rest

/-! ## Arguments and primaries -/

theorem persists_moreArguments
    (hnested : ∀ words, Persists kept second.read words (first.read words)) (words : List Token) :
    Persists kept (moreArguments second) words (moreArguments first words) := by
  obtain hnext | ⟨kind, lexeme, offset, rest, hwords, hkind⟩ :=
    nextIsNot_or (fun kind => kind = .comma) words
  · rw [moreArguments_of_nextIsNot hnext]
    exact persists_ok fun other hother => moreArguments_of_nextIsNot (hnext.congr hother)
  · have hcomma : kind = .comma := by simpa using hkind
    rw [hwords, moreArguments_comma hcomma]
    refine persists_cons (Persists.congr (persists_bind (hnested rest)
      fun argument after hread => ?_) fun other _ => moreArguments_comma hcomma)
    exact persists_map _ (persists_moreArguments hnested after)
termination_by words.length
decreasing_by
  have hshorter := first.shorter hread
  rw [hwords, List.length_cons]
  omega

theorem persists_callArguments
    (hnested : ∀ words, Persists kept second.read words (first.read words)) (words : List Token) :
    Persists kept (callArguments second) words (callArguments first words) := by
  obtain hnext | ⟨kind, lexeme, offset, rest, rfl, hkind⟩ :=
    nextIsNot_or (fun kind => kind = .rightParen) words
  · rw [callArguments_of_nextIsNot hnext]
    refine Persists.congr (persists_bind (hnested words) fun argument after _ => ?_)
      fun other hother => callArguments_of_nextIsNot (hnext.congr hother)
    exact persists_map _ (persists_moreArguments hnested after)
  · obtain rfl : kind = .rightParen := by simpa using hkind
    refine persists_ok fun other hother => ?_
    obtain ⟨next, others, rfl, hclosing⟩ := hother.exists_eq_cons
    obtain ⟨lexeme, offset, rfl⟩ := exists_eq_of_kind hclosing
    rfl

theorem persists_nameOrCall (hlimit : Widens kept limit larger)
    (hnested : ∀ words, Persists kept second.read words (first.read words)) (name : String)
    (words : List Token) :
    Persists kept (nameOrCall larger second name) words (nameOrCall limit first name words) := by
  obtain hnext | ⟨kind, lexeme, offset, rest, rfl, hkind⟩ :=
    nextIsNot_or (fun kind => kind = .leftParen) words
  · rw [nameOrCall_of_nextIsNot hnext]
    exact persists_ok fun other hother => nameOrCall_of_nextIsNot (hnext.congr hother)
  · obtain rfl : kind = .leftParen := by simpa using hkind
    refine persists_cons (persists_bind (persists_callArguments hnested rest)
      fun trees rest _ => ?_)
    refine persists_bind persists_expect fun closing rest _ => ?_
    exact persists_checkHeight hlimit (persists_ok fun _ _ => rfl)

theorem persists_primary (hlimit : Widens kept limit larger)
    (hnested : ∀ words, Persists kept second.read words (first.read words)) (words : List Token) :
    Persists kept (primary larger second) words (primary limit first words) := by
  obtain hnext | ⟨kind, lexeme, offset, rest, rfl, hkind⟩ :=
    nextIsNot_or Token.Kind.startsExpression words
  · rw [primary_of_nextIsNot hnext]
    exact persists_error fun _ other hother => primary_of_nextIsNot (hnext.congr hother.kind)
  · cases kind with
    | number =>
        cases hvalue : Numeral.toInt64? lexeme.toList with
        | some value =>
            have hread : ∀ limit nested words,
                primary limit nested (⟨.number, lexeme, offset⟩ :: words) =
                  .ok (⟨.number value, 1⟩, words) := by
              intro limit nested words
              rw [primary_number, hvalue]
            rw [hread]
            exact persists_cons (persists_ok fun other _ => hread larger second other)
        | none =>
            have hread : ∀ limit nested words,
                primary limit nested (⟨.number, lexeme, offset⟩ :: words) =
                  .error ⟨.integerThatFits, ⟨.number, lexeme, offset⟩ :: words⟩ := by
              intro limit nested words
              rw [primary_number, hvalue]
            rw [hread]
            refine persists_error fun _ other hother => ?_
            obtain ⟨others, rfl⟩ := List.head?_eq_some_iff.1 (hother.head? rfl)
            exact hread larger second others
    | string => exact persists_cons (persists_ok fun _ _ => rfl)
    | identifier => exact persists_cons (persists_nameOrCall hlimit hnested lexeme rest)
    | leftParen =>
        refine persists_cons (persists_bind (hnested rest) fun inner rest _ => ?_)
        exact persists_map (fun _ => inner) persists_expect
    | _ => simp [Token.Kind.startsExpression] at hkind

/-- A name at the beginning was looked at, and what it begins persists from the next word on. -/
theorem persists_primary_name (hlimit : Widens kept limit larger)
    (hnested : ∀ words, Persists kept second.read words (first.read words)) (name : String)
    (offset : Nat) (words : List Token) :
    Persists kept (fun other => primary larger second ([⟨.identifier, name, offset⟩] ++ other))
      words (primary limit first ([⟨.identifier, name, offset⟩] ++ words)) :=
  persists_nameOrCall hlimit hnested name words

theorem persists_sum (before : List Token) (hlimit : Widens kept limit larger)
    (hnested : ∀ words, Persists kept second.read words (first.read words))
    (hbefore : Persists kept (fun other => primary larger second (before ++ other)) words
      (primary limit first (before ++ words))) :
    Persists kept (fun other => (sum larger second).read (before ++ other)) words
      ((sum limit first).read (before ++ words)) := by
  have hproduct : ∀ words,
      Persists kept (product larger second).read words ((product limit first).read words) :=
    fun words => persists_layer [] hlimit (persists_primary hlimit hnested)
      (persists_primary hlimit hnested words)
  exact persists_layer before hlimit hproduct
    (persists_layer before hlimit (persists_primary hlimit hnested) hbefore)

theorem persists_nested (hlimit : Widens kept limit larger) {remaining more : Nat}
    (hremaining : Widens kept remaining more) (words : List Token) :
    Persists kept (nested larger more).read words ((nested limit remaining).read words) := by
  induction remaining generalizing more words with
  | zero =>
      refine persists_error fun hkept other _ => ?_
      rw [hremaining.eq hkept]
      rfl
  | succ remaining ih =>
      obtain ⟨more, rfl⟩ : ∃ fewer, more = fewer + 1 :=
        ⟨more - 1, by have hle := hremaining.le; omega⟩
      have hinner := fun words => ih hremaining.pred words
      exact persists_sum [] hlimit hinner (persists_primary hlimit hinner words)

/-! ## Statements -/

/-- Limits that may be wider than others, but not if failures at a limit are kept. -/
structure WidensBoth (kept : Expectation → Prop) (limits larger : Limits) : Prop where
  height : Widens kept limits.height larger.height
  nesting : Widens kept limits.nesting larger.nesting

variable {limits wider : Limits}

theorem persists_expression (hlimits : WidensBoth kept limits wider) (words : List Token) :
    Persists kept (expression wider) words (expression limits words) :=
  persists_map Measured.expression (persists_nested hlimits.height hlimits.nesting words)

theorem persists_expression_name (hlimits : WidensBoth kept limits wider) (name : String)
    (offset : Nat) (words : List Token) :
    Persists kept (fun other => expression wider (⟨.identifier, name, offset⟩ :: other)) words
      (expression limits (⟨.identifier, name, offset⟩ :: words)) := by
  obtain ⟨remaining, hremaining⟩ : ∃ fewer, limits.nesting = fewer + 1 :=
    ⟨limits.nesting - 1, by have hpos := limits.nesting_pos; omega⟩
  obtain ⟨more, hmore⟩ : ∃ fewer, wider.nesting = fewer + 1 :=
    ⟨wider.nesting - 1, by have hpos := wider.nesting_pos; omega⟩
  have hnesting := hlimits.nesting
  rw [hremaining, hmore] at hnesting
  have hinner := persists_nested hlimits.height hnesting.pred
  simp only [expression, hremaining, hmore]
  exact persists_map Measured.expression (persists_sum [⟨.identifier, name, offset⟩] hlimits.height
    hinner (persists_primary_name hlimits.height hinner name offset words))

theorem persists_endStatement {place : Place} {statement : Stmt} :
    Persists kept (endStatement place statement) words (endStatement place statement words) :=
  persists_map (fun _ => statement) persists_expect

/-- An expression and the end of its statement. -/
theorem persists_expression_endStatement (hlimits : WidensBoth kept limits wider) (place : Place)
    (statement : Expr → Stmt) (words : List Token) :
    Persists kept (fun other => expression wider other >>= fun result =>
        endStatement place (statement result.1) result.2) words
      (expression limits words >>= fun result =>
        endStatement place (statement result.1) result.2) :=
  persists_bind (persists_expression hlimits words) fun _ _ _ => persists_endStatement

theorem persists_statement (hlimits : WidensBoth kept limits wider) (words : List Token) :
    Persists kept (statement wider) words (statement limits words) := by
  obtain hnext | ⟨kind, lexeme, offset, rest, rfl, hkind⟩ := nextIsNot_or decidesStatement words
  · rw [statement_of_nextIsNot hnext]
    exact (persists_expression_endStatement hlimits _ .evaluate words).congr
      fun other hother => statement_of_nextIsNot (hnext.congr hother)
  refine persists_cons ?_
  cases kind with
  | intKeyword =>
      simp only [statement]
      refine persists_bind persists_name fun declared rest _ => ?_
      obtain hnext | ⟨kind, sign, start, rest, rfl, hkind⟩ :=
        nextIsNot_or (fun kind => kind = .assign) rest
      · have hend : Persists kept (endStatement .afterDeclaration (.declare declared none)) rest
            (endStatement .afterDeclaration (.declare declared none) rest) := persists_endStatement
        dsimp only
        split
        · exact absurd rfl (hnext.ne rfl)
        · refine hend.congr fun other hother => ?_
          split
          · exact absurd rfl ((hnext.congr hother).ne rfl)
          · rfl
      · obtain rfl : kind = .assign := by simpa using hkind
        exact persists_cons (persists_expression_endStatement hlimits _
          (fun init => .declare declared (some init)) rest)
  | returnKeyword =>
      obtain hnext | ⟨kind, sign, start, rest, rfl, hkind⟩ :=
        nextIsNot_or (fun kind => kind = .semicolon) rest
      · rw [statement_return hnext]
        exact (persists_expression_endStatement hlimits _ (fun value => .returns (some value))
          rest).congr fun other hother => statement_return (hnext.congr hother)
      · obtain rfl : kind = .semicolon := by simpa using hkind
        exact persists_cons (persists_ok fun _ _ => rfl)
  | identifier =>
      obtain hnext | ⟨kind, sign, start, rest, rfl, hkind⟩ :=
        nextIsNot_or (fun kind => kind = .assign) rest
      · -- The word after the name was looked at to tell an assignment, so it must stay the same:
        -- the expression is compared from that word on, and not from the name.
        rw [statement_name hnext]
        exact (persists_bind (persists_expression_name hlimits lexeme offset rest)
          fun _ _ _ => persists_endStatement).congr
          fun other hother => statement_name (hnext.congr hother)
      · obtain rfl : kind = .assign := by simpa using hkind
        exact persists_cons (persists_expression_endStatement hlimits _ (.assign lexeme) rest)
  | _ => simp [decidesStatement] at hkind

/-! ## Functions and programs -/

theorem persists_body (hlimits : WidensBoth kept limits wider) (words : List Token) :
    Persists kept (body wider) words (body limits words) := by
  cases words with
  | nil =>
      rw [body]
      refine persists_error fun _ other hother => ?_
      obtain rfl := hother.kind.eq_nil
      rw [body]
  | cons word rest =>
      by_cases hword : word.kind = .rightBrace
      · obtain ⟨lexeme, offset, rfl⟩ := exists_eq_of_kind hword
        rw [body]
        exact persists_cons (persists_ok fun _ _ => by rw [body])
      · have hsteps : Persists kept (fun other => statement wider other >>= fun first =>
              body wider first.2 >>= fun others => .ok (first.1 :: others.1, others.2))
            (word :: rest) (statement limits (word :: rest) >>= fun first =>
              body limits first.2 >>= fun others => .ok (first.1 :: others.1, others.2)) :=
          persists_bind (persists_statement hlimits (word :: rest)) fun first after hread =>
            persists_map (fun others => first :: others) (persists_body hlimits after)
        rw [body_cons hword]
        refine hsteps.congr fun other hother => ?_
        obtain ⟨next, others, rfl, hnext⟩ := hother.exists_eq_cons
        exact body_cons (hnext ▸ hword)
termination_by words.length
decreasing_by exact length_of_statement hread

theorem persists_function (hlimits : WidensBoth kept limits wider) (words : List Token) :
    Persists kept (function wider) words (function limits words) := by
  refine persists_bind persists_expect fun int rest _ => ?_
  refine persists_bind persists_name fun name rest _ => ?_
  refine persists_bind persists_expect fun opening rest _ => ?_
  refine persists_bind persists_expect fun closing rest _ => ?_
  refine persists_bind persists_expect fun start rest _ => ?_
  exact persists_map (fun body => (⟨name, body⟩ : Function)) (persists_body hlimits rest)

theorem persists_functionsToEnd (hlimits : WidensBoth kept limits wider) (words : List Token) :
    Persists kept (functionsToEnd wider) words (functionsToEnd limits words) := by
  cases words with
  | nil =>
      rw [functionsToEnd_nil]
      refine persists_ok fun other hother => ?_
      obtain rfl := hother.eq_nil
      exact functionsToEnd_nil
  | cons word rest =>
      have hsteps : Persists kept (fun other => function wider other >>= fun first =>
            functionsToEnd wider first.2 >>= fun others => .ok (first.1 :: others.1, others.2))
          (word :: rest) (function limits (word :: rest) >>= fun first =>
            functionsToEnd limits first.2 >>= fun others => .ok (first.1 :: others.1, others.2)) :=
        persists_bind (persists_function hlimits (word :: rest)) fun first after hread =>
          persists_map (fun others => first :: others) (persists_functionsToEnd hlimits after)
      rw [functionsToEnd_cons]
      refine hsteps.congr fun other hother => ?_
      obtain ⟨next, others, rfl, -⟩ := hother.exists_eq_cons
      exact functionsToEnd_cons next others
termination_by words.length
decreasing_by exact length_of_function hread

/-- The same failure comes of all words that begin with those before it and go on with one of the
same kind, which has to be the same one if an integer does not fit. -/
theorem exists_functions_of_sameNext {failure : Failure}
    (hread : functions limits words = .error failure) :
    ∃ taken, words = taken ++ failure.rest ∧ ∀ other, SameNext failure.expected other failure.rest →
      functions limits (taken ++ other) = .error ⟨failure.expected, other⟩ := by
  have hsame : WidensBoth (fun _ => True) limits limits :=
    ⟨⟨Nat.le_refl _, fun _ => rfl⟩, ⟨Nat.le_refl _, fun _ => rfl⟩⟩
  have hpersists := persists_functionsToEnd hsame words
  rw [functionsToEnd, hread] at hpersists
  obtain ⟨taken, hwords, hother⟩ := hpersists trivial
  refine ⟨taken, hwords, fun other hnext => ?_⟩
  have hfailure := hother other hnext
  rw [functionsToEnd] at hfailure
  cases hfunctions : functions limits (taken ++ other) with
  | ok functions =>
      rw [hfunctions] at hfailure
      cases hfailure
  | error failure =>
      rw [hfunctions] at hfailure
      exact congrArg Except.error (Except.error.inj hfailure)

end TinyC.Syntax
