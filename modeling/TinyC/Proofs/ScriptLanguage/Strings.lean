import TinyC.Proofs.ScriptLanguage.Word

/-!
# The strings in a script's text

A string begins at a quote, wherever it stands in a text, and ends at the next
quote that no backslash takes.  A text yields its strings in order.  The letters
before a quote would make it a string of another kind, so there are none before
a string that is read here.

## Strategy

What a text yields is stated before every rest, so that what its parts yield is
put together in the order of the text.
-/

namespace TinyC.ScriptLanguage

/-! ## Where a string ends -/

/-- The place of the first quote that no backslash takes. -/
def closingQuote? : List Char → Option Nat
  | [] => none
  | '"' :: _ => some 0
  | '\\' :: _ :: rest => (closingQuote? rest).map (· + 2)
  | _ :: rest => (closingQuote? rest).map (· + 1)

/-! ## Strings in order -/

/-- The characters at which something else than plain text begins. -/
def opening : List Char := ['"', '\'', '#']

/-- The strings of a text in order, where the character before it may belong to a name.  There are
none if a string has no end, letters before it or another kind of quotes, or if there is a remark. -/
def strings? (afterName : Bool) (text : List Char) : Option (List String) :=
  match text with
  | [] => some []
  | c :: rest =>
      if c ∉ opening then strings? (continuesName c) rest
      else if c ≠ '"' || afterName then none
      else
        match _ : textAt? (c :: rest) with
        | some (.text value, after) => (strings? false after).map (value :: ·)
        | _ => none
termination_by text.length
decreasing_by
  · exact Nat.lt_succ_self _
  · exact length_of_textAt? ‹_›

@[simp] theorem strings?_nil (afterName : Bool) : strings? afterName [] = some [] := by
  rw [strings?]

theorem strings?_cons (afterName : Bool) {c : Char} (hc : c ∉ opening) (rest : List Char) :
    strings? afterName (c :: rest) = strings? (continuesName c) rest := by
  rw [strings?, if_pos hc]

theorem strings?_of_textAt? {text rest : List Char} {value : String}
    (htext : textAt? ('"' :: text) = some (.text value, rest)) :
    strings? false ('"' :: text) = (strings? false rest).map (value :: ·) := by
  rw [strings?, if_neg (by decide), if_neg (by decide)]
  split
  · rename_i hsome
    rw [htext] at hsome
    obtain ⟨hword, rfl⟩ := Prod.mk.inj (Option.some.inj hsome)
    obtain rfl := Word.text.inj hword
    rfl
  · rename_i hnone
    exact absurd htext (hnone value rest)

/-! ## What a text yields -/

/-- Where no name goes on, the text yields these strings and then those of what follows. -/
def Yields (text : List Char) (values : List String) : Prop :=
  ∀ rest, strings? false (text ++ rest) = (strings? false rest).map (values ++ ·)

theorem Yields.append {first second : List Char} {values others : List String}
    (hfirst : Yields first values) (hsecond : Yields second others) :
    Yields (first ++ second) (values ++ others) := by
  intro rest
  rw [List.append_assoc, hfirst, hsecond, Option.map_map]
  simp [Function.comp_def]

theorem yields_nil : Yields [] [] := by
  intro rest
  simp

theorem Yields.flatMap {α : Type} {items : List α} {text : α → List Char}
    {values : α → List String} (hitems : ∀ item ∈ items, Yields (text item) (values item)) :
    Yields (items.flatMap text) (items.flatMap values) := by
  induction items with
  | nil => exact yields_nil
  | cons first rest ih =>
      rw [List.forall_mem_cons] at hitems
      rw [List.flatMap_cons, List.flatMap_cons]
      exact hitems.1.append (ih hitems.2)

theorem Yields.strings? {text : List Char} {values : List String} (hyields : Yields text values) :
    strings? false text = some values := by
  have hall := hyields []
  rwa [List.append_nil, strings?_nil, Option.map_some, List.append_nil] at hall

/-! ## Plain text -/

/-- Nothing in the text begins a string or a remark. -/
def IsPlain (text : List Char) : Prop := ∀ c ∈ text, c ∉ opening

instance (text : List Char) : Decidable (IsPlain text) :=
  List.decidableBAll (fun c => c ∉ opening) text

theorem IsPlain.append {first second : List Char} (hfirst : IsPlain first)
    (hsecond : IsPlain second) : IsPlain (first ++ second) :=
  List.forall_mem_append.2 ⟨hfirst, hsecond⟩

/-- The character is plain, and no name goes on with it. -/
def IsSeparator (c : Char) : Prop := c ∉ opening ∧ continuesName c = false

instance : DecidablePred IsSeparator := fun _ => inferInstanceAs (Decidable (_ ∧ _))

/-- Plain text up to a separator yields nothing. -/
theorem yields_plain {text : List Char} {c : Char} (htext : IsPlain text) (hc : IsSeparator c) :
    Yields (text ++ [c]) [] := by
  have hplain : ∀ afterName rest,
      strings? afterName (text ++ c :: rest) = strings? false rest := by
    induction text with
    | nil =>
        intro afterName rest
        rw [List.nil_append, strings?_cons afterName hc.1, hc.2]
    | cons first others ih =>
        intro afterName rest
        obtain ⟨hfirst, hothers⟩ := List.forall_mem_cons.1 htext
        rw [List.cons_append, strings?_cons afterName hfirst, ih hothers]
  intro rest
  simpa using hplain false rest

theorem yields_separator {c : Char} (hc : IsSeparator c) : Yields [c] [] :=
  yields_plain (List.forall_mem_nil _) hc

/-- A string yields itself, with the separator after it. -/
theorem yields_of_textAt? {text : List Char} {value : String} {c : Char} (hc : IsSeparator c)
    (htext : ∀ rest, textAt? ('"' :: (text ++ c :: rest)) = some (.text value, c :: rest)) :
    Yields ('"' :: text ++ [c]) [value] := by
  intro rest
  rw [List.append_assoc, List.cons_append, List.singleton_append, strings?_of_textAt? (htext rest),
    strings?_cons false hc.1, hc.2]
  rfl

end TinyC.ScriptLanguage
