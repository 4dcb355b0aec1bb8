import TinyC.Proofs.Grammar.CursorCalls
import TinyC.Proofs.Grammar.CursorReading

/-!
# The cursor within its bounds

In the course of reading, the cursor never gets behind the first end of input, and
never are more nestings open than there may be.  A call leaves as many of them open
as it found, whether it succeeds or fails; what it reads is measured right; and a
rule that succeeds has taken a token, unless it is a loop, which may be over at
once.  So the calls come to an end.

## Strategy

Each call is made nearer to the end than the one that makes it: the cursor has
moved, or the rule is one further inside (`Call.distance`).  So it is enough to go
through the code of each rule once, on the condition that nearer calls end as they
should (`EndsBelow`), and to see to it that only nearer calls are made.  `Keeps`
says this of a part of the code that goes on from some state on the way; it passes
through parts in a row (`Keeps.bind`).  The calls then end as they should by
induction on the distance (`endsBelow`), and every event keeps to the bounds by
induction on how it came about (`permits_of_happens`).
-/

namespace TinyC.Syntax.Cursor

/-! ## Conditions on code -/

/-- From the state on, all events are allowed, every step can be taken, and the outcome is as it
should be. -/
def Code.Ensures {α : Type} (input : Input) (allowed : Event → Prop)
    (post : Except SyntaxError α → State → Prop) : Code α → State → Prop
  | .done result, state => post result state
  | .look ahead rest, state =>
      allowed ⟨state, .looks ahead⟩ ∧
        ∃ token, input.token? state ahead = some token ∧
          (rest token).Ensures input allowed post state
  | .count rest, state => (rest state.nesting).Ensures input allowed post state
  | .move change rest, state =>
      allowed ⟨change.apply state, .moved⟩ ∧
        rest.Ensures input allowed post (change.apply state)
  | .call callee rest, state =>
      allowed ⟨state, .calls callee⟩ ∧
        ∃ result after, callee.steps input state = some (result, after) ∧
          (rest result).Ensures input allowed post after

namespace Code

variable {α β : Type} {input : Input} {allowed : Event → Prop} {code : Code α} {state : State}
  {post : Except SyntaxError α → State → Prop}

theorem Ensures.allowed_of_mem (hcode : code.Ensures input allowed post state) :
    ∀ event ∈ code.events input state, allowed event := by
  induction code generalizing state with
  | done result => simp [events]
  | look ahead rest ih =>
      obtain ⟨hlook, token, htoken, hrest⟩ := hcode
      rw [events, htoken]
      exact List.forall_mem_cons.2 ⟨hlook, ih token hrest⟩
  | count rest ih => exact ih _ hcode
  | move change rest ih => exact List.forall_mem_cons.2 ⟨hcode.1, ih hcode.2⟩
  | call callee rest ih =>
      obtain ⟨hcall, result, after, hsteps, hrest⟩ := hcode
      rw [events, hsteps]
      exact List.forall_mem_cons.2 ⟨hcall, ih result hrest⟩

theorem Ensures.exists_outcome (hcode : code.Ensures input allowed post state) :
    ∃ result after, code.steps input state = some (result, after) ∧ post result after := by
  induction code generalizing state with
  | done result => exact ⟨result, state, rfl, hcode⟩
  | look ahead rest ih =>
      obtain ⟨-, token, htoken, hrest⟩ := hcode
      obtain ⟨result, after, hsteps, hpost⟩ := ih token hrest
      refine ⟨result, after, ?_, hpost⟩
      show Option.bind _ _ = _
      rw [htoken]
      exact hsteps
  | count rest ih => exact ih _ hcode
  | move change rest ih => exact ih hcode.2
  | call callee rest ih =>
      obtain ⟨-, result, after, hsteps, hrest⟩ := hcode
      obtain ⟨value, final, hfinal, hpost⟩ := ih result hrest
      refine ⟨value, final, ?_, hpost⟩
      show Option.bind _ _ = _
      rw [hsteps]
      exact hfinal

theorem Ensures.bind {following : α → Code β} {final : Except SyntaxError β → State → Prop}
    (hcode : code.Ensures input allowed post state)
    (hvalue : ∀ value after, post (.ok value) after →
      (following value).Ensures input allowed final after)
    (herror : ∀ error after, post (.error error) after → final (.error error) after) :
    (code >>= following).Ensures input allowed final state := by
  show (code.bind following).Ensures input allowed final state
  induction code generalizing state with
  | done result =>
      cases result with
      | error error => exact herror error state hcode
      | ok value => exact hvalue value state hcode
  | look ahead rest ih =>
      obtain ⟨hlook, token, htoken, hrest⟩ := hcode
      exact ⟨hlook, token, htoken, ih token hrest⟩
  | count rest ih => exact ih _ hcode
  | move change rest ih => exact ⟨hcode.1, ih hcode.2⟩
  | call callee rest ih =>
      obtain ⟨hcall, result, after, hsteps, hrest⟩ := hcode
      exact ⟨hcall, result, after, hsteps, ih result hrest⟩

theorem Ensures.imp {weaker : Except SyntaxError α → State → Prop}
    (hcode : code.Ensures input allowed post state)
    (himp : ∀ result after, post result after → weaker result after) :
    code.Ensures input allowed weaker state := by
  induction code generalizing state with
  | done result => exact himp result state hcode
  | look ahead rest ih =>
      obtain ⟨hlook, token, htoken, hrest⟩ := hcode
      exact ⟨hlook, token, htoken, ih token hrest⟩
  | count rest ih => exact ih _ hcode
  | move change rest ih => exact ⟨hcode.1, ih hcode.2⟩
  | call callee rest ih =>
      obtain ⟨hcall, result, after, hsteps, hrest⟩ := hcode
      exact ⟨hcall, result, after, hsteps, ih result hrest⟩

end Code

/-! ## Bounds -/

/-- The index of the first end of input. -/
def Input.last (input : Input) : Nat :=
  input.tokens.findIdx fun token => token.kind = .endOfInput

/-- The cursor is not behind the first end of input, and not too many nestings are open. -/
structure Input.Admits (input : Input) (state : State) : Prop where
  cursor_le : state.cursor ≤ input.last
  nesting_le : state.nesting ≤ input.limits.nesting

/-- From the one state to the other the cursor has not moved back, and as many nestings are open. -/
structure Input.Reaches (input : Input) (start state : State) : Prop where
  nesting_eq : state.nesting = start.nesting
  le_cursor : start.cursor ≤ state.cursor
  admits : input.Admits state

/-- The height is that of the tree, and within the limits. -/
structure IsExact (limits : Limits) (measured : Measured) : Prop where
  height_eq : measured.height = measured.expression.height
  pos : 1 ≤ measured.height
  le : measured.height ≤ limits.height

variable {input : Input} {start state after : State}

theorem Input.Admits.reaches (hstate : input.Admits state) : input.Reaches state state :=
  ⟨rfl, Nat.le_refl _, hstate⟩

theorem Input.Reaches.trans (hstate : input.Reaches start state)
    (hafter : input.Reaches state after) : input.Reaches start after :=
  ⟨hafter.nesting_eq.trans hstate.nesting_eq,
    Nat.le_trans hstate.le_cursor hafter.le_cursor, hafter.admits⟩

namespace Call

/-- What is handed to a rule is measured right. -/
def Fits (limits : Limits) : Call → Prop
  | .operations _ left => IsExact limits left
  | _ => True

/-- What a rule has read is measured right, if it is measured. -/
def Exact (limits : Limits) : (call : Call) → call.Value → Prop
  | .nested, value | .layer _, value | .operations _ _, value | .operand _, value
  | .primary, value => IsExact limits value
  | .callArguments, values | .arguments, values => ∀ value ∈ values, IsExact limits value
  | .statement, _ | .body, _ | .function, _ | .functions, _ => True

/-- How many tokens a rule takes at least when it succeeds: one, unless it is a loop that may be
over at once. -/
def fewest : Call → Nat
  | .operations _ _ | .body | .functions => 0
  | _ => 1

/-- How far inside a rule is, counted from the innermost ones: what a rule calls before any token
was taken is further inside. -/
def rank : Call → Nat
  | .primary | .operations _ _ | .function => 0
  | .operand .multiplicative => 1
  | .layer .multiplicative => 2
  | .operand .additive => 3
  | .layer .additive => 4
  | .nested => 5
  | .arguments | .statement => 6
  | .callArguments | .body | .functions => 7

theorem rank_lt (call : Call) : call.rank < 8 := by
  cases call with
  | layer operators => cases operators <;> decide
  | operand operators => cases operators <;> decide
  | _ => simp [rank]

/-- How far a call is from the end: first the tokens that are left count, then the rule. -/
def distance (input : Input) (call : Call) (state : State) : Nat :=
  8 * (input.last - state.cursor) + call.rank

theorem distance_lt_of_cursor (call : Call) {callee : Call} (hcursor : state.cursor < after.cursor)
    (hlast : after.cursor ≤ input.last) :
    callee.distance input after < call.distance input state := by
  have hrank := callee.rank_lt
  rw [distance, distance]
  omega

theorem distance_lt_of_rank {call callee : Call} (hcursor : state.cursor ≤ after.cursor)
    (hrank : callee.rank < call.rank) :
    callee.distance input after < call.distance input state := by
  rw [distance, distance]
  omega

/-- How a call ends. -/
structure Ends (input : Input) (call : Call) (state : State)
    (result : Except SyntaxError call.Value) (after : State) : Prop where
  reaches : input.Reaches state after
  takes : ∀ value, result = .ok value → state.cursor + call.fewest ≤ after.cursor
  exact : ∀ value, result = .ok value → call.Exact input.limits value

end Call

/-- Calls that are nearer to the end than the bound end as they should. -/
def Input.EndsBelow (input : Input) (bound : Nat) : Prop :=
  ∀ (call : Call) (state : State), call.distance input state < bound → input.Admits state →
    call.Fits input.limits →
      ∃ result after, call.steps input state = some (result, after) ∧
        call.Ends input state result after

/-- An event within the bounds: all tokens looked at are there, and all calls are nearer to the end
than the bound. -/
structure Input.Permits (input : Input) (bound : Nat) (event : Event) : Prop where
  admits : input.Admits event.state
  looks : ∀ ahead, event.action = .looks ahead → event.state.cursor + ahead ≤ input.last
  calls : ∀ call, event.action = .calls call →
    call.Fits input.limits ∧ call.distance input event.state < bound

theorem Input.permits_moved {bound : Nat} (hstate : input.Admits state) :
    input.Permits bound ⟨state, .moved⟩ :=
  ⟨hstate, fun _ heq => (nomatch heq), fun _ heq => (nomatch heq)⟩

theorem Input.permits_looks {bound ahead : Nat} (hstate : input.Admits state)
    (hahead : state.cursor + ahead ≤ input.last) : input.Permits bound ⟨state, .looks ahead⟩ :=
  ⟨hstate, fun _ heq => Action.looks.inj heq ▸ hahead, fun _ heq => nomatch heq⟩

theorem Input.permits_calls {bound : Nat} {call : Call} (hstate : input.Admits state)
    (hfits : call.Fits input.limits) (hlt : call.distance input state < bound) :
    input.Permits bound ⟨state, .calls call⟩ :=
  ⟨hstate, fun _ heq => (nomatch heq), fun _ heq => Action.calls.inj heq ▸ ⟨hfits, hlt⟩⟩

namespace Code

variable {α β : Type} {bound : Nat} {good : α → State → Prop} {kind : Token.Kind}

/-- Part of the code of a call that began at the start, from the state on: its events are within
the bounds, and so is its outcome, with a good value if there is one. -/
def Keeps (input : Input) (start : State) (bound : Nat) (code : Code α) (state : State)
    (good : α → State → Prop) : Prop :=
  code.Ensures input (input.Permits bound) (fun result after =>
    input.Reaches start after ∧ ∀ value, result = .ok value → good value after) state

theorem keeps_pure {value : α} (hstate : input.Reaches start state) (hgood : good value state) :
    (pure value : Code α).Keeps input start bound state good :=
  ⟨hstate, fun _ heq => Except.ok.inj heq ▸ hgood⟩

theorem Keeps.bind {code : Code α} {following : α → Code β} {final : β → State → Prop}
    (hcode : code.Keeps input start bound state good)
    (hfollowing : ∀ value after, input.Reaches start after → good value after →
      (following value).Keeps input start bound after final) :
    (code >>= following).Keeps input start bound state final :=
  Ensures.bind hcode
    (fun value after hafter => hfollowing value after hafter.1 (hafter.2 value rfl))
    fun _ _ hafter => ⟨hafter.1, fun _ heq => nomatch heq⟩

theorem Keeps.imp {code : Code α} {weaker : α → State → Prop}
    (hcode : code.Keeps input start bound state good)
    (himp : ∀ value after, good value after → weaker value after) :
    code.Keeps input start bound state weaker :=
  Ensures.imp hcode fun _ after hafter =>
    ⟨hafter.1, fun value heq => himp value after (hafter.2 value heq)⟩

/-- A call that is near enough to the end. -/
theorem keeps_ofCall (hbelow : input.EndsBelow bound) (hstate : input.Reaches start state)
    (callee : Call) (hfits : callee.Fits input.limits)
    (hlt : callee.distance input state < bound) :
    (ofCall callee).Keeps input start bound state fun value after =>
      state.cursor + callee.fewest ≤ after.cursor ∧ callee.Exact input.limits value := by
  obtain ⟨result, after, hsteps, hends⟩ := hbelow callee state hlt hstate.admits hfits
  exact ⟨input.permits_calls hstate.admits hfits hlt, result, after, hsteps,
    hstate.trans hends.reaches, fun value heq => ⟨hends.takes value heq, hends.exact value heq⟩⟩

/-! ## Single tokens -/

/-- The kind of the current token. -/
def kindAt (input : Input) (state : State) : Token.Kind :=
  ((input.tokens[state.cursor]?).map Token.kind).getD .endOfInput

section

variable (hend : input.last < input.tokens.length)
include hend

/-- Where there is another token, the cursor is before the first end of input. -/
theorem lt_last (hstate : input.Admits state) (hkind : kindAt input state ≠ .endOfInput) :
    state.cursor < input.last := by
  refine Nat.lt_of_le_of_ne hstate.cursor_le fun heq => hkind ?_
  have hlast := List.findIdx_getElem (w := hend)
  rw [kindAt, heq, List.getElem?_eq_getElem hend]
  exact of_decide_eq_true hlast

theorem keeps_peek (hstate : input.Reaches start state) {ahead : Nat}
    (hahead : state.cursor + ahead ≤ input.last) :
    (peek ahead).Keeps input start bound state fun token after =>
      after = state ∧ input.tokens[state.cursor + ahead]? = some token := by
  have htoken : input.tokens[state.cursor + ahead]? = some input.tokens[state.cursor + ahead] :=
    List.getElem?_eq_getElem (by omega)
  refine ⟨input.permits_looks hstate.admits hahead, _, ?_, hstate,
    fun _ heq => ⟨rfl, Except.ok.inj heq ▸ htoken⟩⟩
  rw [Input.token?, Nat.min_eq_left (by omega)]
  exact htoken

theorem keeps_current (hstate : input.Reaches start state) :
    (peek 0).Keeps input start bound state fun token after =>
      after = state ∧ token.kind = kindAt input state := by
  refine (keeps_peek hend hstate hstate.admits.cursor_le).imp fun token after hafter => ?_
  have htoken : input.tokens[state.cursor]? = some token := hafter.2
  refine ⟨hafter.1, ?_⟩
  rw [kindAt, htoken]
  rfl

theorem keeps_isAt (hstate : input.Reaches start state) (kind : Token.Kind) :
    (isAt kind).Keeps input start bound state fun found after =>
      after = state ∧ (found = true → kindAt input state = kind) := by
  refine (keeps_current hend hstate).bind fun token after hafter htoken => ?_
  obtain ⟨rfl, hkind⟩ := htoken
  exact keeps_pure hafter ⟨rfl, fun hfound => hkind.symm.trans (of_decide_eq_true hfound)⟩

theorem keeps_next (hstate : input.Reaches start state)
    (hkind : kindAt input state ≠ .endOfInput) :
    next.Keeps input start bound state fun _ after => after.cursor = state.cursor + 1 := by
  have hlt := lt_last hend hstate.admits hkind
  refine (keeps_current hend hstate).bind fun token after hafter htoken => ?_
  obtain ⟨rfl, htoken⟩ := htoken
  have hmoved : input.Reaches start (Change.advance.apply after) :=
    ⟨hafter.nesting_eq, Nat.le_succ_of_le hafter.le_cursor, hlt, hafter.admits.nesting_le⟩
  simp only [htoken, ne_eq, hkind, not_false_eq_true, if_true]
  exact ⟨input.permits_moved hmoved.admits, hmoved, fun _ _ => rfl⟩

theorem keeps_fail (hstate : input.Reaches start state) (expected : Expectation) :
    (fail expected : Code α).Keeps input start bound state good :=
  (keeps_current hend hstate).bind fun _ _ hafter _ => ⟨hafter, fun _ heq => nomatch heq⟩

theorem keeps_eat (hstate : input.Reaches start state) (hkind : kind ≠ .endOfInput) :
    (eat kind).Keeps input start bound state fun eaten after =>
      if eaten then after.cursor = state.cursor + 1 else after = state := by
  refine (keeps_isAt hend hstate kind).bind fun found after hafter hfound => ?_
  obtain ⟨rfl, hfound⟩ := hfound
  cases found with
  | false => exact keeps_pure hafter rfl
  | true =>
      exact (keeps_next hend hafter (hfound rfl ▸ hkind)).bind fun _ _ hmoved hcursor =>
        keeps_pure hmoved hcursor

theorem keeps_expect (hstate : input.Reaches start state) (hkind : kind ≠ .endOfInput)
    (expected : Expectation) :
    (expect kind expected).Keeps input start bound state fun _ after =>
      after.cursor = state.cursor + 1 := by
  refine (keeps_isAt hend hstate kind).bind fun found after hafter hfound => ?_
  obtain ⟨rfl, hfound⟩ := hfound
  cases found with
  | false => exact keeps_fail hend hafter expected
  | true => exact keeps_next hend hafter (hfound rfl ▸ hkind)

theorem keeps_name (hstate : input.Reaches start state) (expected : Expectation) :
    (name expected).Keeps input start bound state fun _ after =>
      after.cursor = state.cursor + 1 :=
  (keeps_expect hend hstate (by decide) expected).bind fun _ _ hafter hcursor =>
    keeps_pure hafter hcursor

theorem keeps_checkHeight (hstate : input.Reaches start state) (height : Nat) :
    (checkHeight input.limits height).Keeps input start bound state fun checked after =>
      after = state ∧ checked = height ∧ height ≤ input.limits.height := by
  rw [checkHeight]
  split
  · exact keeps_fail hend hstate .lowerExpression
  · exact keeps_pure hstate ⟨rfl, rfl, Nat.not_lt.1 ‹_›⟩

end

end Code

/-! ## Rules -/

/-- If nearer calls end as they should, the call keeps to the bounds, and so do the events on the
way. -/
def Call.IsSound (input : Input) (call : Call) (state : State) : Prop :=
  input.EndsBelow (call.distance input state) →
    (call.code input.limits).Keeps input state (call.distance input state) state
      fun value after =>
        state.cursor + call.fewest ≤ after.cursor ∧ call.Exact input.limits value

namespace Call

open Code

theorem isExact_leaf (limits : Limits) {leaf : Expr} (hleaf : leaf.height = 1) :
    IsExact limits ⟨leaf, 1⟩ :=
  ⟨hleaf.symm, Nat.le_refl _, limits.height_pos⟩

theorem greatestHeight_eq {limits : Limits} {arguments : List Measured}
    (harguments : ∀ argument ∈ arguments, IsExact limits argument) :
    greatestHeight arguments = Expr.greatestHeight (arguments.map Measured.expression) := by
  induction arguments with
  | nil => rfl
  | cons argument rest ih =>
      obtain ⟨hargument, hrest⟩ := List.forall_mem_cons.1 harguments
      rw [List.map_cons, Expr.greatestHeight, ← ih hrest, ← hargument.height_eq]
      rfl

section

variable (hstate : input.Admits state)
include hstate

theorem isSound_layer (operators : Layer) : IsSound input (.layer operators) state := by
  intro hbelow
  refine (keeps_ofCall hbelow hstate.reaches (.operand operators) trivial
    (distance_lt_of_rank (Nat.le_refl _) (by cases operators <;> decide))).bind
      fun left after hafter hleft => ?_
  exact (keeps_ofCall hbelow hafter (.operations operators left) hleft.2
    (distance_lt_of_cursor _ hleft.1 hafter.admits.cursor_le)).imp fun _ _ hfinal =>
      ⟨Nat.le_trans hleft.1 hfinal.1, hfinal.2⟩

theorem isSound_operand (operators : Layer) : IsSound input (.operand operators) state := by
  intro hbelow
  cases operators with
  | additive =>
      exact keeps_ofCall hbelow hstate.reaches (.layer .multiplicative) trivial
        (distance_lt_of_rank (Nat.le_refl _) (by decide))
  | multiplicative =>
      exact keeps_ofCall hbelow hstate.reaches .primary trivial
        (distance_lt_of_rank (Nat.le_refl _) (by decide))

variable (hend : input.last < input.tokens.length)
include hend

theorem isSound_nested : IsSound input .nested state := by
  intro hbelow
  show (if input.limits.nesting ≤ state.nesting then fail .lowerExpression
    else .move .enter (.call (.layer .additive) fun result => .move .leave (.done result)) :
      Code Measured).Keeps _ _ _ _ _
  split
  case isTrue => exact keeps_fail hend hstate.reaches .lowerExpression
  case isFalse hopen =>
    have hentered : input.Admits (Change.enter.apply state) :=
      ⟨hstate.cursor_le, Nat.not_le.1 hopen⟩
    have hlt : distance input (.layer .additive) (Change.enter.apply state) <
        distance input .nested state :=
      distance_lt_of_rank (Nat.le_refl _) (by decide)
    obtain ⟨result, after, hsteps, hends⟩ := hbelow (.layer .additive) _ hlt hentered trivial
    -- Whatever the result, the nesting that was entered is left again.
    have hleft : input.Reaches state (Change.leave.apply after) :=
      ⟨congrArg (· - 1) hends.reaches.nesting_eq, hends.reaches.le_cursor,
        hends.reaches.admits.cursor_le,
        Nat.le_trans (Nat.sub_le _ _) hends.reaches.admits.nesting_le⟩
    exact ⟨input.permits_moved hentered, input.permits_calls hentered trivial hlt, result, after,
      hsteps, input.permits_moved hleft.admits, hleft,
      fun value heq => ⟨hends.takes value heq, hends.exact value heq⟩⟩

theorem isSound_operations (operators : Layer) {left : Measured}
    (hleft : IsExact input.limits left) : IsSound input (.operations operators left) state := by
  intro hbelow
  refine (keeps_current hend hstate.reaches).bind fun sign after hafter hsign => ?_
  obtain ⟨rfl, hsign⟩ := hsign
  cases hoperator : operators.operator? sign.kind with
  | none => exact keeps_pure hafter ⟨Nat.le_refl _, hleft⟩
  | some operator =>
      have hkind : kindAt input after ≠ .endOfInput := by
        intro heq
        rw [hsign, heq] at hoperator
        cases operators <;> cases hoperator
      refine (keeps_next hend hafter hkind).bind fun _ signed hsigned hcursor => ?_
      refine (keeps_ofCall hbelow hsigned (.operand operators) trivial
        (distance_lt_of_cursor _ (by omega) hsigned.admits.cursor_le)).bind
          fun right read hread hright => ?_
      obtain ⟨htaken, hright⟩ := hright
      have htaken : signed.cursor + 1 ≤ read.cursor := htaken
      refine (keeps_checkHeight hend hread _).bind fun height checked hchecked hheight => ?_
      obtain ⟨rfl, rfl, hheight⟩ := hheight
      have hfits : IsExact input.limits ⟨.binary operator left.expression right.expression,
          max left.height right.height + 1⟩ :=
        ⟨by rw [Expr.height, ← hleft.height_eq, ← hright.height_eq], Nat.le_add_left _ _, hheight⟩
      refine (keeps_ofCall hbelow hchecked (.operations operators _) hfits
        (distance_lt_of_cursor _ (by omega) hchecked.admits.cursor_le)).imp
          fun value final hfinal => ?_
      exact ⟨Nat.le_trans (show after.cursor ≤ checked.cursor by omega) hfinal.1, hfinal.2⟩

theorem isSound_primary : IsSound input .primary state := by
  intro hbelow
  refine (keeps_current hend hstate.reaches).bind fun word after hafter hword => ?_
  obtain ⟨rfl, hword⟩ := hword
  have hnext : ∀ {kind : Token.Kind}, word.kind = kind → kind ≠ .endOfInput →
      next.Keeps input after (Call.primary.distance input after) after
        fun _ moved => moved.cursor = after.cursor + 1 :=
    fun hkind hne => keeps_next hend hafter (hword ▸ hkind ▸ hne)
  cases hkind : word.kind with
  | number =>
      dsimp only
      cases Numeral.toInt64? word.lexeme.toList with
      | none => exact keeps_fail hend hafter .integerThatFits
      | some value =>
          exact (hnext hkind (by decide)).bind fun _ _ hfinal hcursor =>
            keeps_pure hfinal ⟨Nat.le_of_eq hcursor.symm, isExact_leaf _ rfl⟩
  | string =>
      exact (hnext hkind (by decide)).bind fun _ _ hfinal hcursor =>
        keeps_pure hfinal ⟨Nat.le_of_eq hcursor.symm, isExact_leaf _ rfl⟩
  | identifier =>
      refine (hnext hkind (by decide)).bind fun name named hnamed hname => ?_
      refine (keeps_eat hend hnamed (by decide)).bind fun eaten opened hopened hopening => ?_
      cases eaten with
      | false =>
          obtain rfl : opened = named := hopening
          exact keeps_pure hopened ⟨Nat.le_of_eq hname.symm, isExact_leaf _ rfl⟩
      | true =>
          have hopening : opened.cursor = named.cursor + 1 := hopening
          refine (keeps_ofCall hbelow hopened .callArguments trivial
            (distance_lt_of_cursor _ (by omega) hopened.admits.cursor_le)).bind
              fun arguments closed hclosed harguments => ?_
          obtain ⟨hclosing, harguments⟩ := harguments
          have hclosing : opened.cursor + 1 ≤ closed.cursor := hclosing
          refine (keeps_checkHeight hend hclosed _).bind fun height final hfinal hheight => ?_
          obtain ⟨rfl, rfl, hheight⟩ := hheight
          refine keeps_pure hfinal ⟨show after.cursor + 1 ≤ final.cursor by omega, ?_,
            Nat.le_add_left _ _, hheight⟩
          rw [Expr.height, greatestHeight_eq harguments]
  | leftParen =>
      refine (hnext hkind (by decide)).bind fun _ opened hopened hopening => ?_
      refine (keeps_ofCall hbelow hopened .nested trivial
        (distance_lt_of_cursor _ (by omega) hopened.admits.cursor_le)).bind
          fun inner read hread hinner => ?_
      obtain ⟨htaken, hinner⟩ := hinner
      have htaken : opened.cursor + 1 ≤ read.cursor := htaken
      refine (keeps_expect hend hread (by decide) _).bind fun _ final hfinal hclosing => ?_
      exact keeps_pure hfinal ⟨show after.cursor + 1 ≤ final.cursor by omega, hinner⟩
  | _ => exact keeps_fail hend hafter .expression

theorem isSound_arguments : IsSound input .arguments state := by
  intro hbelow
  refine (keeps_ofCall hbelow hstate.reaches .nested trivial
    (distance_lt_of_rank (Nat.le_refl _) (by decide))).bind fun first after hafter hfirst => ?_
  obtain ⟨htaken, hfirst⟩ := hfirst
  have htaken : state.cursor + 1 ≤ after.cursor := htaken
  refine (keeps_eat hend hafter (by decide)).bind fun eaten following hfollowing heaten => ?_
  cases eaten with
  | false =>
      obtain rfl : following = after := heaten
      exact keeps_pure hfollowing ⟨htaken, List.forall_mem_singleton.2 hfirst⟩
  | true =>
      have hcomma : following.cursor = after.cursor + 1 := heaten
      refine (keeps_ofCall hbelow hfollowing .arguments trivial
        (distance_lt_of_cursor _ (by omega) hfollowing.admits.cursor_le)).bind
          fun others final hfinal hothers => ?_
      obtain ⟨hlast, hothers⟩ := hothers
      have hlast : following.cursor + 1 ≤ final.cursor := hlast
      exact keeps_pure hfinal
        ⟨show state.cursor + 1 ≤ final.cursor by omega, List.forall_mem_cons.2 ⟨hfirst, hothers⟩⟩

theorem isSound_callArguments : IsSound input .callArguments state := by
  intro hbelow
  have hlist : argumentList.Keeps input state (Call.callArguments.distance input state) state
      fun arguments after => state.cursor ≤ after.cursor ∧
        ∀ argument ∈ arguments, IsExact input.limits argument := by
    refine (keeps_isAt hend hstate.reaches .rightParen).bind fun found after hafter hfound => ?_
    obtain ⟨rfl, -⟩ := hfound
    cases found with
    | true => exact keeps_pure hafter ⟨Nat.le_refl _, List.forall_mem_nil _⟩
    | false =>
        exact (keeps_ofCall hbelow hafter .arguments trivial
          (distance_lt_of_rank (Nat.le_refl _) (by decide))).imp fun _ _ hfinal =>
            ⟨Nat.le_of_succ_le hfinal.1, hfinal.2⟩
  refine hlist.bind fun arguments after hafter harguments => ?_
  obtain ⟨hcursor, harguments⟩ := harguments
  refine (keeps_expect hend hafter (by decide) _).bind fun _ final hfinal hclosing => ?_
  exact keeps_pure hfinal ⟨show state.cursor + 1 ≤ final.cursor by omega, harguments⟩

theorem isSound_body : IsSound input .body state := by
  intro hbelow
  refine (keeps_isAt hend hstate.reaches .rightBrace).bind fun found after hafter hfound => ?_
  obtain ⟨rfl, -⟩ := hfound
  cases found with
  | true => exact keeps_pure hafter ⟨Nat.le_refl _, trivial⟩
  | false =>
  refine (keeps_isAt hend hafter .endOfInput).bind fun found looked hlooked hfound => ?_
  obtain ⟨rfl, -⟩ := hfound
  cases found with
  | true => exact keeps_fail hend hlooked _
  | false =>
      refine (keeps_ofCall hbelow hlooked .statement trivial
        (distance_lt_of_rank (Nat.le_refl _) (by decide))).bind
          fun first following hfollowing hfirst => ?_
      refine (keeps_ofCall hbelow hfollowing .body trivial
        (distance_lt_of_cursor _ hfirst.1 hfollowing.admits.cursor_le)).bind
          fun others final hfinal hothers => ?_
      exact keeps_pure hfinal ⟨hfinal.le_cursor, trivial⟩

theorem isSound_function : IsSound input .function state := by
  intro hbelow
  refine (keeps_expect hend hstate.reaches (by decide) _).bind fun _ started hstarted hstart => ?_
  refine (keeps_name hend hstarted _).bind fun name named hnamed hname => ?_
  refine (keeps_expect hend hnamed (by decide) _).bind fun _ opened hopened hopening => ?_
  refine (keeps_expect hend hopened (by decide) _).bind fun _ closed hclosed hclosing => ?_
  refine (keeps_expect hend hclosed (by decide) _).bind fun _ braced hbraced hbrace => ?_
  have hbody : closedBody.Keeps input state (Call.function.distance input state) braced
      fun _ after => braced.cursor ≤ after.cursor := by
    refine (keeps_ofCall hbelow hbraced .body trivial
      (distance_lt_of_cursor _ (by omega) hbraced.admits.cursor_le)).bind
        fun statements after hafter hstatements => ?_
    have hstatements : braced.cursor ≤ after.cursor := hstatements.1
    exact (keeps_expect hend hafter (by decide) _).bind fun _ final hfinal hlast =>
      keeps_pure hfinal (by omega)
  refine hbody.bind fun statements final hfinal hcursor => ?_
  exact keeps_pure hfinal ⟨show state.cursor + 1 ≤ final.cursor by omega, trivial⟩

theorem isSound_functions : IsSound input .functions state := by
  intro hbelow
  refine (keeps_isAt hend hstate.reaches .endOfInput).bind fun found after hafter hfound => ?_
  obtain ⟨rfl, -⟩ := hfound
  cases found with
  | true => exact keeps_pure hafter ⟨Nat.le_refl _, trivial⟩
  | false =>
      refine (keeps_ofCall hbelow hafter .function trivial
        (distance_lt_of_rank (Nat.le_refl _) (by decide))).bind
          fun first following hfollowing hfirst => ?_
      refine (keeps_ofCall hbelow hfollowing .functions trivial
        (distance_lt_of_cursor _ hfirst.1 hfollowing.admits.cursor_le)).bind
          fun others final hfinal hothers => ?_
      exact keeps_pure hfinal ⟨hfinal.le_cursor, trivial⟩

end

/-! ### Statements -/

section

variable (hend : input.last < input.tokens.length)
  (hbelow : input.EndsBelow (Call.statement.distance input start))

include hend in
/-- After a name, the token behind it is looked at too. -/
theorem keeps_isAtAssignment {bound : Nat} (hstate : input.Reaches start state) :
    isAtAssignment.Keeps input start bound state fun found after =>
      after = state ∧ (found = true → kindAt input state = .identifier) := by
  refine (keeps_isAt hend hstate .identifier).bind fun found after hafter hfound => ?_
  obtain ⟨rfl, hkind⟩ := hfound
  cases found with
  | false => exact keeps_pure hafter ⟨rfl, fun hfound => nomatch hfound⟩
  | true =>
      have hlt : after.cursor + 1 ≤ input.last :=
        lt_last hend hafter.admits (hkind rfl ▸ by decide)
      exact (keeps_peek hend hafter hlt).bind fun _ _ hfinal hsign =>
        keeps_pure hfinal ⟨hsign.1, fun _ => hkind rfl⟩

include hbelow

/-- Wherever in a statement, an expression is further inside. -/
theorem keeps_expression (hstate : input.Reaches start state) :
    Code.expression.Keeps input start (Call.statement.distance input start) state
      fun _ after => state.cursor + 1 ≤ after.cursor :=
  (keeps_ofCall hbelow hstate .nested trivial
    (distance_lt_of_rank hstate.le_cursor (by decide))).bind fun _ _ hafter hvalue =>
      keeps_pure hafter hvalue.1

include hend

theorem keeps_expression_endStatement (hstate : input.Reaches start state) (place : Place)
    (statement : Expr → Stmt) :
    (Code.expression >>= fun value => Code.endStatement place (statement value)).Keeps input start
      (Call.statement.distance input start) state
      fun _ after => state.cursor + 1 ≤ after.cursor := by
  refine (keeps_expression hbelow hstate).bind fun value after hafter hvalue => ?_
  exact (keeps_expect hend hafter (by decide) _).bind fun _ _ hfinal hsemicolon =>
    keeps_pure hfinal (by omega)

theorem keeps_initialValue (hstate : input.Reaches start state) :
    initialValue.Keeps input start (Call.statement.distance input start) state
      fun _ after => state.cursor ≤ after.cursor := by
  refine (keeps_eat hend hstate (by decide)).bind fun eaten after hafter heaten => ?_
  cases eaten with
  | false => exact keeps_pure hafter (Nat.le_of_eq (congrArg State.cursor heaten).symm)
  | true =>
      have hassign : after.cursor = state.cursor + 1 := heaten
      exact (keeps_expression hbelow hafter).bind fun _ _ hfinal hvalue =>
        keeps_pure hfinal (by omega)

theorem keeps_returnedValue (hstate : input.Reaches start state) :
    returnedValue.Keeps input start (Call.statement.distance input start) state
      fun _ after => state.cursor ≤ after.cursor := by
  refine (keeps_isAt hend hstate .semicolon).bind fun found after hafter hfound => ?_
  obtain ⟨rfl, -⟩ := hfound
  cases found with
  | true => exact keeps_pure hafter (Nat.le_refl _)
  | false =>
      exact (keeps_expression hbelow hafter).bind fun _ _ hfinal hvalue =>
        keeps_pure hfinal (Nat.le_of_succ_le hvalue)

theorem keeps_statement (hstart : input.Admits start) :
    Code.statement.Keeps input start (Call.statement.distance input start) start
      fun _ after => start.cursor + 1 ≤ after.cursor := by
  refine (keeps_eat hend hstart.reaches (by decide)).bind fun eaten after hafter heaten => ?_
  cases eaten with
  | true =>
      have hint : after.cursor = start.cursor + 1 := heaten
      refine (keeps_name hend hafter _).bind fun declared named hnamed hname => ?_
      refine (keeps_initialValue hend hbelow hnamed).bind fun init read hread hinit => ?_
      exact (keeps_expect hend hread (by decide) _).bind fun _ _ hfinal hsemicolon =>
        keeps_pure hfinal (by omega)
  | false =>
  obtain rfl : after = start := heaten
  refine (keeps_eat hend hafter (by decide)).bind fun eaten left hleft heaten => ?_
  cases eaten with
  | true =>
      have hreturn : left.cursor = after.cursor + 1 := heaten
      refine (keeps_returnedValue hend hbelow hleft).bind fun value read hread hvalue => ?_
      exact (keeps_expect hend hread (by decide) _).bind fun _ _ hfinal hsemicolon =>
        keeps_pure hfinal (by omega)
  | false =>
  obtain rfl : left = after := heaten
  refine (keeps_isAtAssignment hend hleft).bind fun found looked hlooked hfound => ?_
  obtain ⟨rfl, hkind⟩ := hfound
  cases found with
  | true =>
      refine (keeps_next hend hlooked (hkind rfl ▸ by decide)).bind
        fun assigned named hnamed hname => ?_
      refine (keeps_expect hend hnamed (by decide) _).bind fun _ signed hsigned hsign => ?_
      exact (keeps_expression_endStatement hend hbelow hsigned .afterAssignment
        (.assign assigned.lexeme)).imp fun _ _ hfinal => by omega
  | false => exact keeps_expression_endStatement hend hbelow hlooked .afterExpression .evaluate

end

end Call

/-! ## All calls -/

section

variable (hend : input.last < input.tokens.length)
include hend

theorem Call.isSound (call : Call) (hstate : input.Admits state) (hfits : call.Fits input.limits) :
    call.IsSound input state := by
  cases call with
  | nested => exact isSound_nested hstate hend
  | layer operators => exact isSound_layer hstate operators
  | operations operators left => exact isSound_operations hstate hend operators hfits
  | operand operators => exact isSound_operand hstate operators
  | primary => exact isSound_primary hstate hend
  | callArguments => exact isSound_callArguments hstate hend
  | arguments => exact isSound_arguments hstate hend
  | statement =>
      intro hbelow
      exact (keeps_statement hend hbelow hstate).imp fun _ _ hfinal => ⟨hfinal, trivial⟩
  | body => exact isSound_body hstate hend
  | function => exact isSound_function hstate hend
  | functions => exact isSound_functions hstate hend

/-- Every call ends as it should, however far from the end it is. -/
theorem Input.endsBelow (bound : Nat) : input.EndsBelow bound := by
  induction bound using Nat.strongRecOn with
  | ind bound ih =>
      intro call state hlt hstate hfits
      have hsound := call.isSound hend hstate hfits (ih _ hlt)
      obtain ⟨result, after, hsteps, hreaches, hgood⟩ := hsound.exists_outcome
      rw [Call.steps_code] at hsteps
      exact ⟨result, after, hsteps, hreaches, fun value heq => (hgood value heq).1,
        fun value heq => (hgood value heq).2⟩

theorem Call.permits_of_mem {call : Call} {event : Event} (hstate : input.Admits state)
    (hfits : call.Fits input.limits)
    (hevent : event ∈ (call.code input.limits).events input state) :
    input.Permits (call.distance input state) event :=
  (call.isSound hend hstate hfits (input.endsBelow hend _)).allowed_of_mem event hevent

theorem Input.permits_of_happens {event : Event} (hevent : input.Happens event) :
    ∃ bound, input.Permits bound event := by
  induction hevent with
  | start =>
      exact ⟨_, input.permits_calls ⟨Nat.zero_le _, Nat.zero_le _⟩ trivial (Nat.lt_succ_self _)⟩
  | inside hcall hevent ih =>
      obtain ⟨bound, hpermits⟩ := ih
      exact ⟨_, Call.permits_of_mem hend hpermits.admits (hpermits.calls _ rfl).1 hevent⟩

/-- Neither the calls inside of calls nor the loops go on without end. -/
theorem Input.wellFounded_makes : WellFounded input.Makes := by
  refine Subrelation.wf (r := (measure fun outer => outer.1.distance input outer.2).rel) ?_
    (measure _).wf
  intro inner outer hmakes
  obtain ⟨bound, hpermits⟩ := input.permits_of_happens hend hmakes.1
  exact ((Call.permits_of_mem hend hpermits.admits (hpermits.calls _ rfl).1 hmakes.2).calls _ rfl).2

end

/-! ## Reading a program -/

theorem Stops.last_lt {words : List Token} {stop : Token}
    (hstops : Stops input.tokens words stop) : input.last < input.tokens.length := by
  obtain ⟨after, htokens⟩ := hstops.exists_eq
  refine List.findIdx_lt_length.2 ⟨stop, ?_, decide_eq_true hstops.kind_stop⟩
  rw [htokens]
  exact List.mem_append_right _ List.mem_cons_self

/-- Whatever the tokens, in every state in the course of reading them the cursor is not behind the
first end of input, which is thus never taken, at most 256 nestings are open, and only tokens up to
the first end of input are looked at.  Every call ends; then as many nestings are open as when it
began, with a value or with an error; and if it has a value, then the cursor has moved, but for
loops, and the value is measured right.  There is no endless row of calls, each made by the one
before, and reading ends. -/
theorem parse_within_bounds (tokens : List Token) :
    let input : Input := ⟨Grammar.withEnd tokens, .standard⟩
    input.last < input.tokens.length ∧
      (∀ event, input.Happens event →
        event.state.cursor ≤ input.last ∧ event.state.nesting ≤ 256 ∧
          ∀ ahead, event.action = .looks ahead → event.state.cursor + ahead ≤ input.last) ∧
      (∀ call state, input.Happens ⟨state, .calls call⟩ →
        ∃ result after, call.steps input state = some (result, after) ∧
          call.Ends input state result after) ∧
      WellFounded input.Makes ∧ parse tokens = some (Program.ofTokens tokens) := by
  intro input
  have hend : input.last < input.tokens.length := (stops_withEnd tokens).last_lt
  refine ⟨hend, fun event hevent => ?_, fun call state hcall => ?_,
    input.wellFounded_makes hend, parse_eq tokens⟩
  · obtain ⟨bound, hpermits⟩ := input.permits_of_happens hend hevent
    exact ⟨hpermits.admits.cursor_le, hpermits.admits.nesting_le, hpermits.looks⟩
  · obtain ⟨bound, hpermits⟩ := input.permits_of_happens hend hcall
    obtain ⟨hfits, hlt⟩ := hpermits.calls call rfl
    exact input.endsBelow hend bound call state hlt hpermits.admits hfits

/-- The words of a function that ends inside of parentheses. -/
def unclosed : List Token :=
  [⟨.intKeyword, "int", 0⟩, ⟨.identifier, "f", 4⟩, ⟨.leftParen, "(", 5⟩, ⟨.rightParen, ")", 6⟩,
    ⟨.leftBrace, "\x7b", 8⟩, ⟨.returnKeyword, "return", 10⟩, ⟨.leftParen, "(", 17⟩]

/-- The value to be returned begins behind six words; then one nesting is open, and none when the
call has ended. -/
theorem parse_within_bounds_unclosed :
    let input : Input := ⟨Grammar.withEnd unclosed, .standard⟩
    (input.Happens ⟨⟨6, 0⟩, .calls .nested⟩ ∧ input.Happens ⟨⟨6, 1⟩, .moved⟩) ∧
      6 ≤ input.last ∧
      ∃ result after, Call.nested.steps input ⟨6, 0⟩ = some (result, after) ∧
        after.nesting = 0 ∧ 6 ≤ after.cursor ∧ after.cursor ≤ 7 := by
  intro input
  have hfunction : input.Happens ⟨⟨0, 0⟩, .calls .function⟩ :=
    .inside .start (List.mem_of_getElem? (i := 1) rfl)
  have hbody : input.Happens ⟨⟨5, 0⟩, .calls .body⟩ :=
    .inside hfunction (List.mem_of_getElem? (i := 15) rfl)
  have hstatement : input.Happens ⟨⟨5, 0⟩, .calls .statement⟩ :=
    .inside hbody (List.mem_of_getElem? (i := 2) rfl)
  have hnested : input.Happens ⟨⟨6, 0⟩, .calls .nested⟩ :=
    .inside hstatement (List.mem_of_getElem? (i := 5) rfl)
  have hentered : input.Happens ⟨⟨6, 1⟩, .moved⟩ :=
    .inside hnested (List.mem_of_getElem? (i := 0) rfl)
  obtain ⟨-, hevents, hcalls, -⟩ := parse_within_bounds unclosed
  obtain ⟨result, after, hsteps, hends⟩ := hcalls _ _ hnested
  exact ⟨⟨hnested, hentered⟩, (hevents _ hentered).1, result, after, hsteps,
    hends.reaches.nesting_eq, hends.reaches.le_cursor, hends.reaches.admits.cursor_le⟩

end TinyC.Syntax.Cursor
