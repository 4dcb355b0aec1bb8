import TinyC.Syntax.Expectation

/-!
# Reading words

Words are the tokens of a text before its end.  Reading a beginning of them
gives a value and the words after it, or fails with an expectation and the words
before which it was not met.  A `Rule` never succeeds without taking a word, so
repeating it comes to an end.
-/

namespace TinyC

namespace Syntax

/-- An unmet expectation, and the words before which it was not met. -/
structure Failure where
  expected : Expectation
  rest : List Token
  deriving DecidableEq, Repr

/-- A way to read words that takes at least one of them. -/
structure Rule (α : Type) where
  read : List Token → Except Failure (α × List Token)
  shorter : ∀ {words rest : List Token} {value : α},
    read words = .ok (value, rest) → rest.length < words.length

@[simp] theorem ok_bind {α β : Type} (value : α) (next : α → Except Failure β) :
    (Except.ok value >>= next) = next value := rfl

@[simp] theorem error_bind {α β : Type} (failure : Failure) (next : α → Except Failure β) :
    (Except.error failure >>= next) = .error failure := rfl

@[simp] theorem pure_eq_ok {α : Type} (value : α) : (pure value : Except Failure α) = .ok value :=
  rfl

/-- Steps in a row succeed only if each of them does. -/
theorem ok_of_bind {α β : Type} {first : Except Failure α} {next : α → Except Failure β} {value : β}
    (hbind : (first >>= next) = .ok value) :
    ∃ intermediate, first = .ok intermediate ∧ next intermediate = .ok value := by
  cases first with
  | error failure => simp [bind, Except.bind] at hbind
  | ok intermediate => exact ⟨intermediate, rfl, hbind⟩

/-- Reads a token of one kind. -/
def expect (kind : Token.Kind) (expected : Expectation) :
    List Token → Except Failure (Token × List Token)
  | [] => .error ⟨expected, []⟩
  | word :: rest =>
      if word.kind = kind then .ok (word, rest) else .error ⟨expected, word :: rest⟩

/-- Reads a name. -/
def name (expected : Expectation) (words : List Token) : Except Failure (String × List Token) := do
  let (word, rest) ← expect .identifier expected words
  return (word.lexeme, rest)

theorem eq_cons_of_expect {kind : Token.Kind} {expected : Expectation} {words rest : List Token}
    {word : Token} (hread : expect kind expected words = .ok (word, rest)) :
    words = word :: rest ∧ word.kind = kind := by
  cases words with
  | nil => simp [expect] at hread
  | cons first tail =>
      rw [expect] at hread
      split at hread
      · simp only [Except.ok.injEq, Prod.mk.injEq] at hread
        obtain ⟨rfl, rfl⟩ := hread
        exact ⟨rfl, by assumption⟩
      · simp at hread

end Syntax

end TinyC
