import TinyC.Proofs.ScriptLanguage.Strings

/-!
# The brackets of a line

Brackets in strings do not count.  Outside of strings, what closes a bracket has
to close the one that was opened last, and at the end of a line none may be open.
How many are open at once is counted from left to right.

## Strategy

A part of a line that closes all brackets that it opens (`Nests`) leaves those
that are open before it alone: it only adds to how many have been open at once.
So the count for a text comes from the counts for its parts, and with brackets
around it there is one more.
-/

namespace TinyC.ScriptLanguage

/-! ## Strings left empty -/

/-- A text with nothing left in its strings, where the character before it may belong to a name.
There is none if the strings of the text cannot be read. -/
def emptied? (afterName : Bool) (text : List Char) : Option (List Char) :=
  match text with
  | [] => some []
  | c :: rest =>
      if c ∉ opening then (emptied? (continuesName c) rest).map (c :: ·)
      else if c ≠ '"' || afterName then none
      else
        match _ : textAt? (c :: rest) with
        | some (_, after) => (emptied? false after).map (['"', '"'] ++ ·)
        | none => none
termination_by text.length
decreasing_by
  · exact Nat.lt_succ_self _
  · exact length_of_textAt? ‹_›

@[simp] theorem emptied?_nil (afterName : Bool) : emptied? afterName [] = some [] := by
  rw [emptied?]

theorem emptied?_cons (afterName : Bool) {c : Char} (hc : c ∉ opening) (rest : List Char) :
    emptied? afterName (c :: rest) = (emptied? (continuesName c) rest).map (c :: ·) := by
  rw [emptied?, if_pos hc]

theorem emptied?_of_textAt? {text rest : List Char} {word : Word}
    (htext : textAt? ('"' :: text) = some (word, rest)) :
    emptied? false ('"' :: text) = (emptied? false rest).map (['"', '"'] ++ ·) := by
  rw [emptied?, if_neg (by decide), if_neg (by decide)]
  split
  · rename_i hsome
    rw [htext] at hsome
    obtain ⟨-, rfl⟩ := Prod.mk.inj (Option.some.inj hsome)
    rfl
  · rename_i hnone
    rw [htext] at hnone
    cases hnone

/-- The text ends, or goes on with a separator. -/
def IsParted (rest : List Char) : Prop := ∀ c ∈ rest.head?, IsSeparator c

theorem isParted_nil : IsParted [] := nofun

theorem isParted_cons {c : Char} (hc : IsSeparator c) (rest : List Char) : IsParted (c :: rest) := by
  intro d hd
  obtain rfl := Option.some.inj hd
  exact hc

/-- What is before a separator does not matter. -/
theorem IsParted.emptied?_eq {rest : List Char} (hrest : IsParted rest) (afterName : Bool) :
    emptied? afterName rest = emptied? false rest := by
  cases rest with
  | nil => simp
  | cons c rest =>
      have hc := (hrest c rfl).1
      rw [emptied?_cons afterName hc, emptied?_cons false hc]

/-- Plain text is left as it is. -/
theorem emptied?_plain {text rest : List Char} (htext : IsPlain text) (hrest : IsParted rest)
    (afterName : Bool) :
    emptied? afterName (text ++ rest) = (emptied? false rest).map (text ++ ·) := by
  induction text generalizing afterName with
  | nil => simpa using hrest.emptied?_eq afterName
  | cons c text ih =>
      obtain ⟨hc, htext⟩ := List.forall_mem_cons.1 htext
      rw [List.cons_append, emptied?_cons afterName hc, ih htext, Option.map_map]
      rfl

/-! ## Open brackets -/

/-- The bracket that closes what a character opens. -/
def closing? : Char → Option Char
  | '(' => some ')'
  | '[' => some ']'
  | '\x7b' => some '\x7d'
  | _ => none

/-- The brackets that close others. -/
def closings : List Char := [')', ']', '\x7d']

/-- The brackets that are open at some place of a line. -/
structure Nesting where
  /-- What closes them, for the last one first. -/
  waiting : List Char
  /-- The largest number of brackets that have been open at once. -/
  most : Nat
  length_le : waiting.length ≤ most

namespace Nesting

/-- No brackets were opened. -/
def start : Nesting := ⟨[], 0, Nat.le_refl 0⟩

/-- One more bracket is open. -/
def opened (nesting : Nesting) (closing : Char) : Nesting :=
  ⟨closing :: nesting.waiting, max nesting.most (nesting.waiting.length + 1), Nat.le_max_right _ _⟩

/-- The last open bracket is closed, if this is what closes it. -/
def closed? (nesting : Nesting) (c : Char) : Option Nesting :=
  match nesting with
  | ⟨[], _, _⟩ => none
  | ⟨expected :: waiting, most, hle⟩ =>
      if c = expected then some ⟨waiting, most, Nat.le_of_succ_le hle⟩ else none

/-- The open brackets after a character, unless it closes another one than the last. -/
def step (nesting : Nesting) (c : Char) : Option Nesting :=
  match closing? c with
  | some closing => some (nesting.opened closing)
  | none => if c ∈ closings then nesting.closed? c else some nesting

end Nesting

/-- The largest number of brackets that are open at once in a line.  There is none if some bracket is
not closed, or closes another one than the last that is open. -/
def brackets? (line : List Char) : Option Nat :=
  (emptied? false line).bind fun around =>
    (around.foldlM Nesting.step .start).bind fun nesting =>
      if nesting.waiting = [] then some nesting.most else none

namespace Nesting

/-- The same brackets are open, but in between there were some more. -/
def deepened (nesting : Nesting) (count : Nat) : Nesting :=
  ⟨nesting.waiting, max nesting.most (nesting.waiting.length + count),
    Nat.le_trans nesting.length_le (Nat.le_max_left _ _)⟩

@[simp] theorem deepened_zero (nesting : Nesting) : nesting.deepened 0 = nesting := by
  obtain ⟨waiting, most, hle⟩ := nesting
  simp [deepened, Nat.max_eq_left hle]

@[simp] theorem deepened_deepened (nesting : Nesting) (first second : Nat) :
    (nesting.deepened first).deepened second = nesting.deepened (max first second) := by
  simp only [deepened, mk.injEq, true_and]
  omega

theorem step_of_not_mem {c : Char} (hopens : closing? c = none) (hcloses : c ∉ closings)
    (nesting : Nesting) : nesting.step c = some nesting := by
  rw [step, hopens]
  exact if_neg hcloses

/-- A text goes on where its beginning has led. -/
theorem foldlM_append_of_eq_some {first second : List Char} {before after : Nesting}
    (hfirst : first.foldlM step before = some after) :
    (first ++ second).foldlM step before = second.foldlM step after := by
  rw [List.foldlM_append, hfirst]
  rfl

theorem closed?_opened (nesting : Nesting) (closing : Char) (count : Nat) :
    ((nesting.opened closing).deepened count).closed? closing =
      some (nesting.deepened (count + 1)) := by
  simp only [opened, deepened, closed?, if_true, List.length_cons, Option.some.injEq, mk.injEq,
    true_and]
  omega

/-- A bracket is opened, some more are opened and closed, and the first is closed. -/
theorem foldlM_enclosed {text : List Char} {count : Nat}
    (htext : ∀ nesting : Nesting, text.foldlM step nesting = some (nesting.deepened count))
    (nesting : Nesting) :
    ('(' :: (text ++ [')'])).foldlM step nesting = some (nesting.deepened (count + 1)) := by
  have hopens : ['('].foldlM step nesting = some (nesting.opened ')') := rfl
  have hcloses : ∀ inner : Nesting, inner.step ')' = inner.closed? ')' := fun _ => rfl
  rw [← List.singleton_append, foldlM_append_of_eq_some hopens,
    foldlM_append_of_eq_some (htext _), List.foldlM_cons, hcloses, closed?_opened]
  rfl

end Nesting

/-! ## Parts of lines -/

/-- Before a separator, the text closes what it opens, and opens at most so many brackets at once. -/
def Nests (text : List Char) (count : Nat) : Prop :=
  ∃ around,
    (∀ rest, IsParted rest → emptied? false (text ++ rest) =
      (emptied? false rest).map (around ++ ·)) ∧
    ∀ nesting : Nesting, around.foldlM Nesting.step nesting = some (nesting.deepened count)

/-- Nothing in the text begins a string or a remark, or is a bracket. -/
def IsFlat (text : List Char) : Prop :=
  ∀ c ∈ text, c ∉ opening ∧ closing? c = none ∧ c ∉ closings

instance (text : List Char) : Decidable (IsFlat text) :=
  List.decidableBAll (fun c => c ∉ opening ∧ closing? c = none ∧ c ∉ closings) text

theorem foldlM_flat {text : List Char} (htext : IsFlat text) (nesting : Nesting) :
    text.foldlM Nesting.step nesting = some nesting := by
  induction text with
  | nil => rfl
  | cons c text ih =>
      obtain ⟨⟨-, hopens, hcloses⟩, htext⟩ := List.forall_mem_cons.1 htext
      rw [List.foldlM_cons, Nesting.step_of_not_mem hopens hcloses]
      exact ih htext

theorem nests_flat {text : List Char} (htext : IsFlat text) : Nests text 0 := by
  refine ⟨text, fun rest hrest => ?_, fun nesting => ?_⟩
  · exact emptied?_plain (fun c hc => (htext c hc).1) hrest false
  · rw [foldlM_flat htext, Nesting.deepened_zero]

theorem nests_nil : Nests [] 0 := nests_flat (List.forall_mem_nil _)

/-- No bracket in a string counts. -/
theorem nests_of_textAt? {text : List Char} {word : Word}
    (htext : ∀ rest, IsParted rest → textAt? ('"' :: (text ++ rest)) = some (word, rest)) :
    Nests ('"' :: text) 0 :=
  ⟨['"', '"'], fun rest hrest => emptied?_of_textAt? (htext rest hrest), fun nesting => by
    rw [Nesting.deepened_zero]
    rfl⟩

namespace Nests

variable {first second : List Char} {count other : Nat}

/-- Parts with a separator between them. -/
theorem append_cons {c : Char} (hfirst : Nests first count) (hc : IsSeparator c)
    (hflat : IsFlat [c]) (hsecond : Nests second other) :
    Nests (first ++ c :: second) (max count other) := by
  obtain ⟨around, hfirst, hcount⟩ := hfirst
  obtain ⟨others, hsecond, hother⟩ := hsecond
  refine ⟨around ++ c :: others, fun rest hrest => ?_, fun nesting => ?_⟩
  · rw [List.append_assoc, List.cons_append, hfirst _ (isParted_cons hc _),
      emptied?_cons false hc.1, hc.2, hsecond rest hrest, Option.map_map, Option.map_map]
    simp [Function.comp_def]
  · have hstep := foldlM_flat hflat (nesting.deepened count)
    rw [Nesting.foldlM_append_of_eq_some (hcount nesting), ← List.singleton_append,
      Nesting.foldlM_append_of_eq_some hstep, hother, Nesting.deepened_deepened]

/-- A part in brackets after a part that has none. -/
theorem enclosed (hfirst : Nests first 0) (hsecond : Nests second count) :
    Nests (first ++ '(' :: (second ++ [')'])) (count + 1) := by
  obtain ⟨around, hfirst, hnone⟩ := hfirst
  obtain ⟨others, hsecond, hcount⟩ := hsecond
  refine ⟨around ++ '(' :: (others ++ [')']), fun rest hrest => ?_, fun nesting => ?_⟩
  · have hopens : IsSeparator '(' := by decide
    have hcloses : IsSeparator ')' := by decide
    rw [List.append_assoc, List.cons_append, List.append_assoc, List.singleton_append,
      hfirst _ (isParted_cons hopens _), emptied?_cons false hopens.1, hopens.2,
      hsecond _ (isParted_cons hcloses _), emptied?_cons false hcloses.1, hcloses.2]
    simp [Function.comp_def]
  · rw [Nesting.foldlM_append_of_eq_some (hnone nesting), Nesting.deepened_zero,
      Nesting.foldlM_enclosed hcount]

/-- The brackets of a line that is one part. -/
theorem brackets?_eq (hfirst : Nests first count) : brackets? first = some count := by
  obtain ⟨around, hfirst, hcount⟩ := hfirst
  have haround := hfirst [] isParted_nil
  simp only [List.append_nil, emptied?_nil, Option.map_some] at haround
  rw [brackets?, haround, Option.bind_some, hcount, Option.bind_some]
  simp [Nesting.deepened, Nesting.start]

end Nests

end TinyC.ScriptLanguage
