import TinyC.Proofs.ScriptLanguage.Grammar

/-!
# One reading

The same words are never read in two ways at the same position, as long as what
is read ends where it has to.

## Strategy

Every word that can go on with something binds it with a strength (`binding`),
and every position has a strength from which on a word would go on with what is
read there (`bound`).  What is read ends before a rest whose first word binds
less (`Ends`).  Readings with such ends cannot stop early or late, and where the
grammar has a choice, the first word makes it (`begins`).  `IsOnly` says that
there is no other reading; it is passed on by every rule of the grammar.
-/

namespace TinyC.ScriptLanguage

/-! ## Ends -/

/-- How tightly a word binds what stands before it to what follows, zero if not at all. -/
def Word.binding : Word → Nat
  | .text _ => 7
  | .sign "(" | .sign "." => 6
  | .sign "*" | .sign "//" | .sign "%" => 5
  | .sign "+" | .sign "-" => 4
  | .sign "<" | .sign "==" => 3
  | .keyword "if" => 2
  | .sign "," => 1
  | _ => 0

/-- The strength of the operators of a layer. -/
def Layer.strength : Layer → Nat
  | .sum => 4
  | .product => 5

/-- From what strength on a word goes on with what is read. -/
def Position.bound : Position → Nat
  | .atom | .texts => 7
  | .factor | .primary | .trailers _ => 6
  | .operand level => level.strength + 1
  | .layer level | .operations level _ => level.strength
  | .comparison | .comparisons => 3
  | .expression | .item _ => 2
  | .arguments | .others _ => 1

/-- Whether a row of items is read at a position. -/
def Position.isRow : Position → Bool
  | .arguments | .others _ => true
  | _ => false

/-- What is read at the position may end before the rest.  A row of items ends with its bracket. -/
def Position.Ends (position : Position) (rest : List Word) : Prop :=
  if position.isRow then rest.head? = some (.sign ")")
  else ∀ word ∈ rest.head?, word.binding < position.bound

namespace Position

variable {position stronger : Position} {word : Word} {rest : List Word}

theorem ends_nil (hrow : position.isRow = false) : position.Ends [] := by
  simp [Ends, hrow]

theorem ends_cons (hrow : position.isRow = false) (hbinding : word.binding < position.bound) :
    position.Ends (word :: rest) := by
  simpa [Ends, hrow] using hbinding

theorem bound_pos (position : Position) : 0 < position.bound := by
  cases position with
  | layer level | operations level | operand level => cases level <;> exact Nat.succ_pos _
  | _ => exact Nat.succ_pos _

theorem ends_bracket : position.Ends (.sign ")" :: rest) := by
  cases hrow : position.isRow with
  | true => simp [Ends, hrow]
  | false => exact ends_cons hrow position.bound_pos

theorem Ends.lt_bound (hends : position.Ends (word :: rest)) : word.binding < position.bound := by
  cases hrow : position.isRow with
  | true =>
      obtain rfl : word = .sign ")" := by simpa [Ends, hrow] using hends
      exact position.bound_pos
  | false => simpa [Ends, hrow] using hends

theorem Ends.eq_bracket (hends : position.Ends (word :: rest)) (hrow : position.isRow = true) :
    word = .sign ")" := by
  simpa [Ends, hrow] using hends

/-- What ends something weak ends something strong. -/
theorem Ends.mono (hends : position.Ends rest) (hbound : position.bound ≤ stronger.bound)
    (hrow : stronger.isRow = false) : stronger.Ends rest := by
  cases rest with
  | nil => exact ends_nil hrow
  | cons word rest => exact ends_cons hrow (Nat.lt_of_lt_of_le hends.lt_bound hbound)

end Position

theorem Comparison.binding_word (comparison : Comparison) : comparison.word.binding = 3 := by
  cases comparison <;> rfl

theorem Operator.binding_word (operator : Operator) :
    operator.word.binding = operator.layer.strength := by
  cases operator <;> rfl

theorem Comparison.word_injective {first second : Comparison} (hword : first.word = second.word) :
    first = second := by
  cases first <;> cases second <;> first | rfl | exact absurd hword (by decide)

theorem Operator.word_injective {first second : Operator} (hword : first.word = second.word) :
    first = second := by
  cases first <;> cases second <;> first | rfl | exact absurd hword (by decide)

theorem Sign.word_injective {first second : Sign} (hword : first.word = second.word) :
    first = second := by
  cases first <;> cases second <;> first | rfl | exact absurd hword (by decide)

/-! ## Beginnings -/

/-- Whether nothing can be read at a position. -/
def Position.mayBeEmpty : Position → Bool
  | .comparisons | .operations _ _ | .trailers _ | .arguments | .others _ => true
  | _ => false

/-- Whether an atom may begin with a word. -/
def Word.beginsAtom : Word → Bool
  | .name _ | .integer _ | .text _ => true
  | .keyword _ => false
  | .sign characters => characters = "("

/-- Whether what is read at a position may begin with a word. -/
def Position.mayBegin (position : Position) (word : Word) : Bool :=
  word.beginsAtom ||
    match position with
    | .texts | .atom | .primary => false
    | .item _ => [.sign "+", .sign "-", .sign "*"].contains word
    | _ => [.sign "+", .sign "-"].contains word

theorem Reads.begins {position : Position} {words rest : List Word} {result : position.Result}
    (hreads : Reads position words result rest) (hfull : position.mayBeEmpty = false) :
    ∃ word ∈ words.head?, position.mayBegin word = true := by
  induction hreads with
  | expression _ ih | conditional _ _ _ ih _ _ | comparison _ _ ih _ | layer _ _ ih _
  | summand _ ih | multiplicand _ ih | primary _ _ ih _ => exact ih rfl
  | factor _ ih =>
      obtain ⟨word, hword, hbegins⟩ := ih rfl
      have hatom : word.beginsAtom = true := by simpa [Position.mayBegin] using hbegins
      exact ⟨word, hword, by simp [Position.mayBegin, hatom]⟩
  | item _ ih =>
      obtain ⟨word, hword, hbegins⟩ := ih rfl
      refine ⟨word, hword, ?_⟩
      simp only [Position.mayBegin, List.contains_cons, List.contains_nil, Bool.or_false,
        Bool.or_eq_true] at hbegins ⊢
      exact hbegins.imp_right (Or.imp_right Or.inl)
  | @signed sign _ _ _ _ hsign _ _ =>
      subst hsign
      cases sign <;> exact ⟨_, rfl, rfl⟩
  | text _ ih =>
      obtain ⟨word, hword, hbegins⟩ := ih rfl
      exact ⟨word, hword, hbegins⟩
  | name | integer | group | noItem | tuple | lastText | moreTexts | starredElement
  | starredArgument => exact ⟨_, rfl, rfl⟩
  | noComparison | moreComparisons | noOperation | moreOperations | noTrailer | member | call
  | noArgument | arguments | noOther | comma | moreOthers => cases hfull

/-- What begins with a word that cannot begin it is not read. -/
theorem Reads.absurd_of_begins {position : Position} {word : Word} {words rest : List Word}
    {result : position.Result} (hreads : Reads position (word :: words) result rest)
    (hfull : position.mayBeEmpty = false) (hnone : position.mayBegin word = false) : False := by
  obtain ⟨found, hfound, hbegins⟩ := hreads.begins hfull
  obtain rfl : word = found := by simpa using hfound
  rw [hnone] at hbegins
  cases hbegins

theorem Sign.not_mayBegin (sign : Sign) : Position.primary.mayBegin sign.word = false := by
  cases sign <;> rfl

/-- A text may not follow another that has ended. -/
theorem Reads.not_ends_of_texts {words rest : List Word} {value : String}
    (hreads : Reads .texts words value rest) : ¬ Position.texts.Ends words := by
  intro hends
  cases hreads with
  | lastText | moreTexts => exact absurd hends.lt_bound (Nat.lt_irrefl 7)

/-- A comparison may not follow comparisons that have ended. -/
theorem Comparison.not_ends (comparison : Comparison) {rest : List Word} :
    ¬ Position.comparisons.Ends (comparison.word :: rest) := by
  intro hends
  have hlt := hends.lt_bound
  rw [comparison.binding_word] at hlt
  exact Nat.lt_irrefl 3 hlt

/-- An operator may not follow operations of its layer that have ended. -/
theorem Operator.not_ends (operator : Operator) {left : Tree} {rest : List Word} :
    ¬ (Position.operations operator.layer left).Ends (operator.word :: rest) := by
  intro hends
  have hlt := hends.lt_bound
  rw [operator.binding_word] at hlt
  exact Nat.lt_irrefl _ hlt

/-- An item may not follow a row that has ended. -/
theorem Reads.not_ends_of_item {position : Position} {kind : ItemKind} {words rest : List Word}
    {tree : Tree} (hreads : Reads (.item kind) words tree rest) (hrow : position.isRow = true) :
    ¬ position.Ends words := by
  intro hends
  obtain ⟨word, hword, -⟩ := hreads.begins rfl
  cases words with
  | nil => cases hword
  | cons first words =>
      obtain rfl := hends.eq_bracket hrow
      exact hreads.absurd_of_begins rfl rfl

/-! ## What comes before a part that goes on -/

theorem Reads.ends_of_comparisons {mid rest : List Word} {others : List (Comparison × Tree)}
    (hreads : Reads .comparisons mid others rest) (hends : Position.comparisons.Ends rest) :
    (Position.layer .sum).Ends mid := by
  cases hreads with
  | noComparison => exact hends.mono (by decide) rfl
  | @moreComparisons comparison _ _ _ _ _ _ hword _ _ =>
      refine Position.ends_cons rfl ?_
      rw [← hword, comparison.binding_word]
      decide

theorem Reads.ends_of_operations {level : Layer} {left tree : Tree} {mid rest : List Word}
    (hreads : Reads (.operations level left) mid tree rest)
    (hends : (Position.operations level left).Ends rest) : (Position.operand level).Ends mid := by
  cases hreads with
  | noOperation => exact hends.mono (Nat.le_succ _) rfl
  | @moreOperations operator _ _ _ _ _ _ _ _ hlayer hword _ _ =>
      refine Position.ends_cons rfl ?_
      rw [← hword, operator.binding_word, hlayer]
      exact Nat.lt_succ_self _

theorem Reads.ends_of_trailers {object tree : Tree} {mid rest : List Word}
    (hreads : Reads (.trailers object) mid tree rest)
    (hends : (Position.trailers object).Ends rest) : Position.atom.Ends mid := by
  cases hreads with
  | noTrailer => exact hends.mono (Nat.le_succ _) rfl
  | member | call => exact Position.ends_cons rfl (by decide)

theorem Reads.ends_of_others {kind : ItemKind} {trees : List Tree} {mid rest : List Word}
    (hreads : Reads (.others kind) mid trees rest) (hends : (Position.others kind).Ends rest) :
    (Position.item kind).Ends mid := by
  cases hreads with
  | noOther => exact hends.mono (Nat.le_succ _) rfl
  | comma | moreOthers => exact Position.ends_cons rfl Nat.one_lt_two

/-! ## Uniqueness -/

theorem Reads.trailers_cases {object tree : Tree} {words rest : List Word}
    (hreads : Reads (.trailers object) words tree rest) :
    (object = tree ∧ words = rest) ∨
      (∃ name tail, words = .sign "." :: .name name :: tail ∧
        Reads (.trailers (.member object (Script.normalName name))) tail tree rest) ∨
      ∃ trees tail mid, words = .sign "(" :: tail ∧
        Reads .arguments tail trees (.sign ")" :: mid) ∧
        Reads (.trailers (.call object trees)) mid tree rest := by
  cases hreads with
  | noTrailer => exact .inl ⟨rfl, rfl⟩
  | member hreads => exact .inr (.inl ⟨_, _, rfl, hreads⟩)
  | call htrees hreads => exact .inr (.inr ⟨_, _, _, rfl, htrees, hreads⟩)

/-- Every reading of the words at the position has this result and this rest, if both end where they
may. -/
def IsOnly (position : Position) (words : List Word) (result : position.Result)
    (rest : List Word) : Prop :=
  ∀ ⦃result₂ rest₂⦄, Reads position words result₂ rest₂ → position.Ends rest →
    position.Ends rest₂ → result = result₂ ∧ rest = rest₂

namespace IsOnly

/-! ### Expressions and comparisons -/

section

variable {words mid rest : List Word} {tree : Tree} {others : List (Comparison × Tree)}

theorem expression (htree : IsOnly .comparison words tree rest) :
    IsOnly .expression words tree rest := by
  intro result₂ rest₂ hother hends hends₂
  have hweak : Position.comparison.Ends rest := hends.mono (by decide) rfl
  cases hother with
  | expression hother => exact htree hother hweak (hends₂.mono (by decide) rfl)
  | conditional hvalue _ _ =>
      obtain ⟨-, rfl⟩ := htree hvalue hweak (Position.ends_cons rfl (by decide))
      exact absurd hends.lt_bound (by decide)

theorem conditional {condition alternative : List Word} {value test otherwise : Tree}
    (hvalue : IsOnly .comparison words value (.keyword "if" :: condition))
    (htest : IsOnly .comparison condition test (.keyword "else" :: alternative))
    (hotherwise : IsOnly .expression alternative otherwise rest) :
    IsOnly .expression words (Tree.conditional value test otherwise) rest := by
  intro result₂ rest₂ hother hends hends₂
  cases hother with
  | expression hother =>
      obtain ⟨-, rfl⟩ := hvalue hother (Position.ends_cons rfl (by decide))
        (hends₂.mono (by decide) rfl)
      exact absurd hends₂.lt_bound (by decide)
  | conditional hvalue₂ htest₂ hotherwise₂ =>
      obtain ⟨rfl, heq⟩ := hvalue hvalue₂ (Position.ends_cons rfl (by decide))
        (Position.ends_cons rfl (by decide))
      obtain rfl := List.tail_eq_of_cons_eq heq
      obtain ⟨rfl, heq⟩ := htest htest₂ (Position.ends_cons rfl (by decide))
        (Position.ends_cons rfl (by decide))
      obtain rfl := List.tail_eq_of_cons_eq heq
      obtain ⟨rfl, rfl⟩ := hotherwise hotherwise₂ hends hends₂
      exact ⟨rfl, rfl⟩

theorem comparison (hreads : Reads .comparisons mid others rest)
    (hfirst : IsOnly (.layer .sum) words tree mid) (hothers : IsOnly .comparisons mid others rest) :
    IsOnly .comparison words (Tree.comparing tree others) rest := by
  intro result₂ rest₂ hother hends hends₂
  cases hother with
  | comparison hfirst₂ hothers₂ =>
      obtain ⟨rfl, rfl⟩ := hfirst hfirst₂
        (hreads.ends_of_comparisons (hends.mono Nat.le.refl rfl))
        (hothers₂.ends_of_comparisons (hends₂.mono Nat.le.refl rfl))
      obtain ⟨rfl, rfl⟩ := hothers hothers₂ (hends.mono Nat.le.refl rfl)
        (hends₂.mono Nat.le.refl rfl)
      exact ⟨rfl, rfl⟩

theorem noComparison : IsOnly .comparisons rest ([] : List (Comparison × Tree)) rest := by
  intro result₂ rest₂ hother hends hends₂
  cases hother with
  | noComparison => exact ⟨rfl, rfl⟩
  | @moreComparisons comparison _ _ _ _ _ _ hword _ _ =>
      subst hword
      exact absurd hends comparison.not_ends

theorem moreComparisons {comparison : Comparison} {word : Word} (hword : comparison.word = word)
    (hreads : Reads .comparisons mid others rest) (htree : IsOnly (.layer .sum) words tree mid)
    (hothers : IsOnly .comparisons mid others rest) :
    IsOnly .comparisons (word :: words) ((comparison, tree) :: others) rest := by
  intro result₂ rest₂ hother hends hends₂
  cases hother with
  | noComparison =>
      subst hword
      exact absurd hends₂ comparison.not_ends
  | moreComparisons hword₂ htree₂ hothers₂ =>
      obtain rfl := Comparison.word_injective (hword.trans hword₂.symm)
      obtain ⟨rfl, rfl⟩ := htree htree₂ (hreads.ends_of_comparisons hends)
        (hothers₂.ends_of_comparisons hends₂)
      obtain ⟨rfl, rfl⟩ := hothers hothers₂ hends hends₂
      exact ⟨rfl, rfl⟩

end

/-! ### Layers of operators -/

section

variable {level : Layer} {words mid rest : List Word} {left right tree : Tree}

theorem layer (hreads : Reads (.operations level left) mid tree rest)
    (hfirst : IsOnly (.operand level) words left mid)
    (htree : IsOnly (.operations level left) mid tree rest) :
    IsOnly (.layer level) words tree rest := by
  intro result₂ rest₂ hother hends hends₂
  cases hother with
  | layer hfirst₂ htree₂ =>
      obtain ⟨rfl, rfl⟩ := hfirst hfirst₂
        (hreads.ends_of_operations (hends.mono Nat.le.refl rfl))
        (htree₂.ends_of_operations (hends₂.mono Nat.le.refl rfl))
      exact htree htree₂ (hends.mono Nat.le.refl rfl) (hends₂.mono Nat.le.refl rfl)

theorem summand (htree : IsOnly (.layer .product) words tree rest) :
    IsOnly (.operand .sum) words tree rest := by
  intro result₂ rest₂ hother hends hends₂
  cases hother with
  | summand hother => exact htree hother (hends.mono Nat.le.refl rfl) (hends₂.mono Nat.le.refl rfl)

theorem multiplicand (htree : IsOnly .factor words tree rest) :
    IsOnly (.operand .product) words tree rest := by
  intro result₂ rest₂ hother hends hends₂
  cases hother with
  | multiplicand hother =>
      exact htree hother (hends.mono Nat.le.refl rfl) (hends₂.mono Nat.le.refl rfl)

theorem noOperation : IsOnly (.operations level left) rest left rest := by
  intro result₂ rest₂ hother hends hends₂
  cases hother with
  | noOperation => exact ⟨rfl, rfl⟩
  | @moreOperations operator _ _ _ _ _ _ _ _ hlayer hword _ _ =>
      subst hlayer hword
      exact absurd hends operator.not_ends

theorem moreOperations {operator : Operator} {word : Word} (hlayer : operator.layer = level)
    (hword : operator.word = word)
    (hreads : Reads (.operations level (.binary operator left right)) mid tree rest)
    (hright : IsOnly (.operand level) words right mid)
    (htree : IsOnly (.operations level (.binary operator left right)) mid tree rest) :
    IsOnly (.operations level left) (word :: words) tree rest := by
  intro result₂ rest₂ hother hends hends₂
  cases hother with
  | noOperation =>
      subst hlayer hword
      exact absurd hends₂ operator.not_ends
  | moreOperations _ hword₂ hright₂ htree₂ =>
      obtain rfl := Operator.word_injective (hword.trans hword₂.symm)
      obtain ⟨rfl, rfl⟩ := hright hright₂ (hreads.ends_of_operations hends)
        (htree₂.ends_of_operations hends₂)
      exact htree htree₂ hends hends₂

end

/-! ### Factors and what trails an atom -/

section

variable {words mid rest : List Word} {object tree : Tree}

theorem signed {sign : Sign} {word : Word} (hsign : sign.word = word)
    (htree : IsOnly .factor words tree rest) :
    IsOnly .factor (word :: words) (Tree.signed sign tree) rest := by
  intro result₂ rest₂ hother hends hends₂
  cases hother with
  | signed hsign₂ hother =>
      obtain rfl := Sign.word_injective (hsign.trans hsign₂.symm)
      obtain ⟨rfl, rfl⟩ := htree hother hends hends₂
      exact ⟨rfl, rfl⟩
  | factor hother =>
      subst hsign
      exact (hother.absurd_of_begins rfl (Sign.not_mayBegin _)).elim

theorem factor (hreads : Reads .primary words tree rest) (htree : IsOnly .primary words tree rest) :
    IsOnly .factor words tree rest := by
  intro result₂ rest₂ hother hends hends₂
  cases hother with
  | signed hsign₂ _ =>
      subst hsign₂
      exact (hreads.absurd_of_begins rfl (Sign.not_mayBegin _)).elim
  | factor hother => exact htree hother (hends.mono Nat.le.refl rfl) (hends₂.mono Nat.le.refl rfl)

theorem primary (hreads : Reads (.trailers object) mid tree rest)
    (hobject : IsOnly .atom words object mid) (htree : IsOnly (.trailers object) mid tree rest) :
    IsOnly .primary words tree rest := by
  intro result₂ rest₂ hother hends hends₂
  cases hother with
  | primary hobject₂ htree₂ =>
      obtain ⟨rfl, rfl⟩ := hobject hobject₂
        (hreads.ends_of_trailers (hends.mono Nat.le.refl rfl))
        (htree₂.ends_of_trailers (hends₂.mono Nat.le.refl rfl))
      exact htree htree₂ (hends.mono Nat.le.refl rfl) (hends₂.mono Nat.le.refl rfl)

theorem noTrailer : IsOnly (.trailers object) rest object rest := by
  intro result₂ rest₂ hother hends hends₂
  obtain ⟨rfl, rfl⟩ | ⟨_, _, rfl, -⟩ | ⟨_, _, _, rfl, -⟩ := hother.trailers_cases
  · exact ⟨rfl, rfl⟩
  · exact absurd hends.lt_bound (Nat.lt_irrefl 6)
  · exact absurd hends.lt_bound (Nat.lt_irrefl 6)

theorem member {name : String}
    (htree : IsOnly (.trailers (.member object (Script.normalName name))) words tree rest) :
    IsOnly (.trailers object) (.sign "." :: .name name :: words) tree rest := by
  intro result₂ rest₂ hother hends hends₂
  obtain ⟨rfl, rfl⟩ | ⟨_, _, heq, hother⟩ | ⟨_, _, _, heq, -⟩ := hother.trailers_cases
  · exact absurd hends₂.lt_bound (Nat.lt_irrefl 6)
  · obtain ⟨rfl, rfl⟩ := by simpa using heq
    exact htree hother hends hends₂
  · simp at heq

theorem call {trees : List Tree} (htrees : IsOnly .arguments words trees (.sign ")" :: mid))
    (htree : IsOnly (.trailers (.call object trees)) mid tree rest) :
    IsOnly (.trailers object) (.sign "(" :: words) tree rest := by
  intro result₂ rest₂ hother hends hends₂
  obtain ⟨rfl, rfl⟩ | ⟨_, _, heq, -⟩ | ⟨_, _, _, heq, htrees₂, htree₂⟩ := hother.trailers_cases
  · exact absurd hends₂.lt_bound (Nat.lt_irrefl 6)
  · simp at heq
  · obtain rfl := List.tail_eq_of_cons_eq heq
    obtain ⟨rfl, heq⟩ := htrees htrees₂ Position.ends_bracket Position.ends_bracket
    obtain rfl := List.tail_eq_of_cons_eq heq
    exact htree htree₂ hends hends₂

end

/-! ### Atoms -/

section

variable {words mid rest : List Word} {tree : Tree}

theorem name {name : String} :
    IsOnly .atom (.name name :: rest) (Tree.name (Script.normalName name)) rest := by
  intro result₂ rest₂ hother hends hends₂
  cases hother with
  | name => exact ⟨rfl, rfl⟩
  | text hother => cases hother

theorem integer {value : Nat} :
    IsOnly .atom (.integer value :: rest) (Tree.integer value) rest := by
  intro result₂ rest₂ hother hends hends₂
  cases hother with
  | integer => exact ⟨rfl, rfl⟩
  | text hother => cases hother

theorem text {value : String} (hreads : Reads .texts words value rest)
    (hvalue : IsOnly .texts words value rest) : IsOnly .atom words (Tree.text value) rest := by
  intro result₂ rest₂ hother hends hends₂
  cases hother with
  | text hother =>
      obtain ⟨rfl, rfl⟩ := hvalue hother hends hends₂
      exact ⟨rfl, rfl⟩
  | name | integer | group | noItem | tuple => cases hreads

theorem group (hreads : Reads .expression words tree (.sign ")" :: rest))
    (htree : IsOnly .expression words tree (.sign ")" :: rest)) :
    IsOnly .atom (.sign "(" :: words) tree rest := by
  intro result₂ rest₂ hother hends hends₂
  cases hother with
  | text hother => cases hother
  | group hother =>
      obtain ⟨rfl, heq⟩ := htree hother Position.ends_bracket Position.ends_bracket
      exact ⟨rfl, List.tail_eq_of_cons_eq heq⟩
  | noItem => exact (hreads.absurd_of_begins rfl rfl).elim
  | tuple hfirst _ =>
      cases hfirst with
      | item hfirst =>
          obtain ⟨-, heq⟩ := htree hfirst Position.ends_bracket (Position.ends_cons rfl (by decide))
          exact absurd (List.head_eq_of_cons_eq heq) (by decide)
      | starredElement => exact (hreads.absurd_of_begins rfl rfl).elim

theorem noItem : IsOnly .atom (.sign "(" :: .sign ")" :: rest) (Tree.tuple []) rest := by
  intro result₂ rest₂ hother hends hends₂
  cases hother with
  | text hother => cases hother
  | group hother => exact (hother.absurd_of_begins rfl rfl).elim
  | noItem => exact ⟨rfl, rfl⟩
  | tuple hfirst _ => exact (hfirst.absurd_of_begins rfl rfl).elim

theorem tuple {trees : List Tree} (hreads : Reads (.item .element) words tree (.sign "," :: mid))
    (hfirst : IsOnly (.item .element) words tree (.sign "," :: mid))
    (hothers : IsOnly (.others .element) (.sign "," :: mid) trees (.sign ")" :: rest)) :
    IsOnly .atom (.sign "(" :: words) (Tree.tuple (tree :: trees)) rest := by
  intro result₂ rest₂ hother hends hends₂
  cases hother with
  | text hother => cases hother
  | group hother =>
      obtain ⟨-, heq⟩ := hfirst (.item hother) (Position.ends_cons rfl (by decide))
        Position.ends_bracket
      exact absurd (List.head_eq_of_cons_eq heq) (by decide)
  | noItem => exact (hreads.absurd_of_begins rfl rfl).elim
  | tuple hfirst₂ hothers₂ =>
      obtain ⟨rfl, heq⟩ := hfirst hfirst₂ (Position.ends_cons rfl (by decide))
        (Position.ends_cons rfl (by decide))
      obtain rfl := List.tail_eq_of_cons_eq heq
      obtain ⟨rfl, heq⟩ := hothers hothers₂ Position.ends_bracket Position.ends_bracket
      exact ⟨rfl, List.tail_eq_of_cons_eq heq⟩

theorem lastText {value : String} : IsOnly .texts (.text value :: rest) value rest := by
  intro result₂ rest₂ hother hends hends₂
  cases hother with
  | lastText => exact ⟨rfl, rfl⟩
  | moreTexts hother => exact absurd hends hother.not_ends_of_texts

theorem moreTexts {value others : String} (hreads : Reads .texts words others rest)
    (hothers : IsOnly .texts words others rest) :
    IsOnly .texts (.text value :: words) (value ++ others) rest := by
  intro result₂ rest₂ hother hends hends₂
  cases hother with
  | lastText => exact absurd hends₂ hreads.not_ends_of_texts
  | moreTexts hother =>
      obtain ⟨rfl, rfl⟩ := hothers hother hends hends₂
      exact ⟨rfl, rfl⟩

end

/-! ### Rows of items -/

section

variable {kind : ItemKind} {words mid rest : List Word} {tree : Tree} {trees : List Tree}

theorem noArgument : IsOnly .arguments rest ([] : List Tree) rest := by
  intro result₂ rest₂ hother hends hends₂
  cases hother with
  | noArgument => exact ⟨rfl, rfl⟩
  | arguments hfirst _ => exact absurd hends (hfirst.not_ends_of_item rfl)

theorem arguments (hreadsFirst : Reads (.item .argument) words tree mid)
    (hreads : Reads (.others .argument) mid trees rest)
    (hfirst : IsOnly (.item .argument) words tree mid)
    (hothers : IsOnly (.others .argument) mid trees rest) :
    IsOnly .arguments words (tree :: trees) rest := by
  intro result₂ rest₂ hother hends hends₂
  cases hother with
  | noArgument => exact absurd hends₂ (hreadsFirst.not_ends_of_item rfl)
  | arguments hfirst₂ hothers₂ =>
      obtain ⟨rfl, rfl⟩ := hfirst hfirst₂ (hreads.ends_of_others hends)
        (hothers₂.ends_of_others hends₂)
      obtain ⟨rfl, rfl⟩ := hothers hothers₂ hends hends₂
      exact ⟨rfl, rfl⟩

theorem item (hreads : Reads .expression words tree rest)
    (htree : IsOnly .expression words tree rest) : IsOnly (.item kind) words tree rest := by
  intro result₂ rest₂ hother hends hends₂
  cases hother with
  | item hother => exact htree hother (hends.mono Nat.le.refl rfl) (hends₂.mono Nat.le.refl rfl)
  | starredElement | starredArgument => exact (hreads.absurd_of_begins rfl rfl).elim

theorem starredElement (htree : IsOnly (.layer .sum) words tree rest) :
    IsOnly (.item .element) (.sign "*" :: words) (Tree.starred tree) rest := by
  intro result₂ rest₂ hother hends hends₂
  cases hother with
  | item hother => exact (hother.absurd_of_begins rfl rfl).elim
  | starredElement hother =>
      obtain ⟨rfl, rfl⟩ := htree hother (hends.mono (by decide) rfl) (hends₂.mono (by decide) rfl)
      exact ⟨rfl, rfl⟩

theorem starredArgument (htree : IsOnly .expression words tree rest) :
    IsOnly (.item .argument) (.sign "*" :: words) (Tree.starred tree) rest := by
  intro result₂ rest₂ hother hends hends₂
  cases hother with
  | item hother => exact (hother.absurd_of_begins rfl rfl).elim
  | starredArgument hother =>
      obtain ⟨rfl, rfl⟩ := htree hother (hends.mono Nat.le.refl rfl) (hends₂.mono Nat.le.refl rfl)
      exact ⟨rfl, rfl⟩

theorem noOther : IsOnly (.others kind) rest ([] : List Tree) rest := by
  intro result₂ rest₂ hother hends hends₂
  cases hother with
  | noOther => exact ⟨rfl, rfl⟩
  | comma | moreOthers => exact absurd (hends.eq_bracket rfl) (by decide)

theorem comma : IsOnly (.others kind) (.sign "," :: rest) ([] : List Tree) rest := by
  intro result₂ rest₂ hother hends hends₂
  cases hother with
  | noOther => exact absurd (hends₂.eq_bracket rfl) (by decide)
  | comma => exact ⟨rfl, rfl⟩
  | moreOthers hfirst _ => exact absurd hends (hfirst.not_ends_of_item rfl)

theorem moreOthers (hreadsFirst : Reads (.item kind) words tree mid)
    (hreads : Reads (.others kind) mid trees rest) (hfirst : IsOnly (.item kind) words tree mid)
    (hothers : IsOnly (.others kind) mid trees rest) :
    IsOnly (.others kind) (.sign "," :: words) (tree :: trees) rest := by
  intro result₂ rest₂ hother hends hends₂
  cases hother with
  | noOther => exact absurd (hends₂.eq_bracket rfl) (by decide)
  | comma => exact absurd hends₂ (hreadsFirst.not_ends_of_item rfl)
  | moreOthers hfirst₂ hothers₂ =>
      obtain ⟨rfl, rfl⟩ := hfirst hfirst₂ (hreads.ends_of_others hends)
        (hothers₂.ends_of_others hends₂)
      obtain ⟨rfl, rfl⟩ := hothers hothers₂ hends hends₂
      exact ⟨rfl, rfl⟩

end

end IsOnly

theorem Reads.isOnly {position : Position} {words rest : List Word} {result : position.Result}
    (hreads : Reads position words result rest) : IsOnly position words result rest := by
  induction hreads with
  | expression _ htree => exact .expression htree
  | conditional _ _ _ hvalue htest hotherwise => exact .conditional hvalue htest hotherwise
  | comparison _ hreads hfirst hothers => exact .comparison hreads hfirst hothers
  | noComparison => exact .noComparison
  | moreComparisons hword _ hreads htree hothers =>
      exact .moreComparisons hword hreads htree hothers
  | layer _ hreads hfirst htree => exact .layer hreads hfirst htree
  | summand _ htree => exact .summand htree
  | multiplicand _ htree => exact .multiplicand htree
  | noOperation => exact .noOperation
  | moreOperations hlayer hword _ hreads hright htree =>
      exact .moreOperations hlayer hword hreads hright htree
  | signed hsign _ htree => exact .signed hsign htree
  | factor hreads htree => exact .factor hreads htree
  | primary _ hreads hobject htree => exact .primary hreads hobject htree
  | noTrailer => exact .noTrailer
  | member _ htree => exact .member htree
  | call _ _ htrees htree => exact .call htrees htree
  | name => exact .name
  | integer => exact .integer
  | text hreads hvalue => exact .text hreads hvalue
  | group hreads htree => exact .group hreads htree
  | noItem => exact .noItem
  | tuple hreads _ hfirst hothers => exact .tuple hreads hfirst hothers
  | lastText => exact .lastText
  | moreTexts hreads hothers => exact .moreTexts hreads hothers
  | noArgument => exact .noArgument
  | arguments hreadsFirst hreads hfirst hothers =>
      exact .arguments hreadsFirst hreads hfirst hothers
  | item hreads htree => exact .item hreads htree
  | starredElement _ htree => exact .starredElement htree
  | starredArgument _ htree => exact .starredArgument htree
  | noOther => exact .noOther
  | comma => exact .comma
  | moreOthers hreadsFirst hreads hfirst hothers =>
      exact .moreOthers hreadsFirst hreads hfirst hothers

theorem Reads.unique {position : Position} {words rest : List Word} {result : position.Result}
    (hreads : Reads position words result rest) {result₂ : position.Result} {rest₂ : List Word}
    (hother : Reads position words result₂ rest₂) (hends : position.Ends rest)
    (hends₂ : position.Ends rest₂) : result = result₂ ∧ rest = rest₂ :=
  hreads.isOnly hother hends hends₂

/-! ## Expressions -/

/-- The text is read as an expression with the tree. -/
def IsReading (text : String) (tree : Tree) : Prop :=
  ∃ words, words? text.toList = some words ∧ Reads .expression words tree []

theorem IsReading.unique {text : String} {first second : Tree} (hfirst : IsReading text first)
    (hsecond : IsReading text second) : first = second := by
  obtain ⟨words, hwords, hfirst⟩ := hfirst
  obtain ⟨words₂, hwords₂, hsecond⟩ := hsecond
  obtain rfl := Option.some.inj (hwords.symm.trans hwords₂)
  exact (hfirst.unique hsecond (Position.ends_nil rfl) (Position.ends_nil rfl)).1

end TinyC.ScriptLanguage
