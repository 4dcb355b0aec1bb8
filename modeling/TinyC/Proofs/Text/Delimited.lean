import TinyC.Proofs.Numeral
import TinyC.Syntax.Printer

/-!
# Where a written item ends

An item that is written is delimited if no other item can be read where it
stands, and it cannot end in two places, whatever follows it.  Quoted text is
delimited, since every character is read back from its escape and no escape
begins with a quote.  Lists in brackets are, if their items are.
-/

namespace TinyC

/-- Where the item is written, no other one can be read, and it ends in one place only. -/
def IsDelimited {α : Type} (write : α → String) (item : α) : Prop :=
  ∀ ⦃other : α⦄ ⦃rest after : List Char⦄,
    (write item).toList ++ rest = (write other).toList ++ after → item = other ∧ rest = after

/-- Delimited items are told apart by what is written. -/
theorem injective_of_isDelimited {α : Type} {write : α → String}
    (hdelimited : ∀ item, IsDelimited write item) : Function.Injective write := fun item other heq =>
  (@hdelimited item other [] [] (by rw [heq])).1

/-- Where a character ends two beginnings of a text in which it does not occur, they are the
same. -/
theorem append_cons_inj {close : Char} {first second rest after : List Char}
    (hfirst : close ∉ first) (hsecond : close ∉ second)
    (heq : first ++ close :: rest = second ++ close :: after) : first = second ∧ rest = after := by
  induction first generalizing second with
  | nil =>
      cases second with
      | nil => exact ⟨rfl, List.tail_eq_of_cons_eq heq⟩
      | cons d second =>
          obtain rfl := List.head_eq_of_cons_eq heq
          exact absurd List.mem_cons_self hsecond
  | cons c first ih =>
      cases second with
      | nil =>
          obtain rfl := List.head_eq_of_cons_eq heq
          exact absurd List.mem_cons_self hfirst
      | cons d second =>
          obtain ⟨rfl, hrest⟩ := List.cons_eq_cons.1 heq
          obtain ⟨rfl, hafter⟩ := ih (List.not_mem_of_not_mem_cons hfirst)
            (List.not_mem_of_not_mem_cons hsecond) hrest
          exact ⟨rfl, hafter⟩

/-- Where a character begins two ends of a text in which it does not occur again, they are the
same. -/
theorem append_cons_inj_last {start : Char} {first second before after : List Char}
    (hfirst : start ∉ first) (hsecond : start ∉ second)
    (heq : before ++ start :: first = after ++ start :: second) :
    before = after ∧ first = second := by
  have hreverse : first.reverse ++ start :: before.reverse =
      second.reverse ++ start :: after.reverse := by
    simpa using congrArg List.reverse heq
  obtain ⟨hends, hbegins⟩ := append_cons_inj (by simpa using hfirst) (by simpa using hsecond)
    hreverse
  exact ⟨List.reverse_inj.1 hbegins, List.reverse_inj.1 hends⟩

/-! ## Quoted text -/

namespace Quoted

/-- The character at the beginning of a quoted text, and the text after it.  There is none at the
quote that ends the text. -/
def first? : List Char → Option (Char × List Char)
  | [] => none
  | '"' :: _ => none
  | '\\' :: '0' :: rest => some ('\x00', rest)
  | '\\' :: 't' :: rest => some ('\t', rest)
  | '\\' :: 'r' :: rest => some ('\r', rest)
  | '\\' :: 'n' :: rest => some ('\n', rest)
  | '\\' :: 'u' :: rest =>
      -- Both braces are dropped with the digits between them.
      let digits := rest.tail.takeWhile fun c => c ≠ '\x7d'
      some (Char.ofNat (Numeral.valueIn 16 digits), rest.drop (digits.length + 2))
  | '\\' :: c :: rest => some (c, rest)
  | c :: rest => some (c, rest)

theorem first?_quote (rest : List Char) : first? ('"' :: rest) = none := rfl

theorem first?_codePoint (c : Char) (rest : List Char) :
    first? (codePoint c ++ rest) = some (c, rest) := by
  have hdigits : ∀ d ∈ Numeral.digits 16 c.toNat, d ≠ '\x7d' := by
    intro d hd
    obtain ⟨low, hlow, rfl⟩ := Numeral.exists_digit_of_mem (by decide) hd
    have hall : ∀ low < 16, Numeral.digit low ≠ '\x7d' := by decide
    exact hall low hlow
  have hrow : (Numeral.digits 16 c.toNat ++ '\x7d' :: rest).takeWhile (fun d => d ≠ '\x7d') =
      Numeral.digits 16 c.toNat := by
    rw [List.takeWhile_append_of_pos (by simpa using hdigits)]
    simp
  have hform : codePoint c ++ rest =
      '\\' :: 'u' :: '\x7b' :: (Numeral.digits 16 c.toNat ++ '\x7d' :: rest) := by
    simp [codePoint]
  rw [hform, first?]
  simp only [List.tail_cons]
  rw [hrow, Numeral.valueIn_digits (by decide) (by decide), Char.ofNat_toNat]
  simp [List.drop_append]

/-- Every character is read back from the way it stands in a text, whatever follows. -/
theorem first?_escape (c : Char) (rest : List Char) :
    first? (escape '"' c ++ rest) = some (c, rest) := by
  unfold escape
  iterate 4
    split
    · rename_i hc
      subst hc
      rfl
  split
  · rename_i hc
    obtain rfl | rfl := hc <;> rfl
  rename_i hplain
  split
  · exact first?_codePoint c rest
  · rw [not_or] at hplain
    rw [List.singleton_append]
    unfold first?
    split <;> simp_all

/-- Two texts without their first quotes are the same if they are written alike, and then they end
in the same place. -/
theorem flatMap_escape_inj {first second rest after : List Char}
    (heq : first.flatMap (escape '"') ++ '"' :: rest =
      second.flatMap (escape '"') ++ '"' :: after) : first = second ∧ rest = after := by
  induction first generalizing second with
  | nil =>
      cases second with
      | nil => exact ⟨rfl, List.tail_eq_of_cons_eq heq⟩
      | cons d second =>
          have hread := congrArg first? heq
          rw [List.flatMap_nil, List.nil_append, first?_quote, List.flatMap_cons,
            List.append_assoc, first?_escape] at hread
          cases hread
  | cons c first ih =>
      have hread := congrArg first? heq
      rw [List.flatMap_cons, List.append_assoc, first?_escape] at hread
      cases second with
      | nil =>
          rw [List.flatMap_nil, List.nil_append, first?_quote] at hread
          cases hread
      | cons d second =>
          rw [List.flatMap_cons, List.append_assoc, first?_escape, Option.some.injEq,
            Prod.mk.injEq] at hread
          obtain ⟨rfl, hrest⟩ := hread
          obtain ⟨rfl, hafter⟩ := ih hrest
          exact ⟨rfl, hafter⟩

theorem isDelimited_text (value : String) : IsDelimited text value := by
  have hform : ∀ (value : String) rest, (text value).toList ++ rest =
      '"' :: (value.toList.flatMap (escape '"') ++ '"' :: rest) := by
    simp [text]
  intro other rest after heq
  rw [hform, hform] at heq
  obtain ⟨hvalue, hrest⟩ := flatMap_escape_inj (List.tail_eq_of_cons_eq heq)
  exact ⟨String.toList_inj.1 hvalue, hrest⟩

end Quoted

/-! ## Lists in brackets -/

/-- Texts with a comma and a blank between them: the first one, and the others with these before
each. -/
theorem toList_intercalate_cons (first : String) (rest : List String) :
    (", ".intercalate (first :: rest)).toList =
      first.toList ++ rest.flatMap fun text => ',' :: ' ' :: text.toList := by
  induction rest generalizing first with
  | nil => simp
  | cons second rest ih =>
      rw [String.intercalate_cons_cons, String.toList_append, String.toList_append, ih second,
        List.flatMap_cons]
      simp

section

variable {α : Type} {write : α → String}

/-- Items with a comma and a blank before each are told apart up to the bracket that ends them. -/
theorem flatMap_append_bracket {items others : List α} {rest after : List Char}
    (hitems : ∀ item ∈ items, IsDelimited write item)
    (heq : (items.flatMap fun item => ',' :: ' ' :: (write item).toList) ++ ']' :: rest =
      (others.flatMap fun item => ',' :: ' ' :: (write item).toList) ++ ']' :: after) :
    items = others ∧ rest = after := by
  induction items generalizing others with
  | nil =>
      cases others with
      | nil => exact ⟨rfl, List.tail_eq_of_cons_eq heq⟩
      | cons other others => exact absurd (List.head_eq_of_cons_eq heq) (by decide)
  | cons item items ih =>
      obtain ⟨hitem, hitems⟩ := List.forall_mem_cons.1 hitems
      cases others with
      | nil => exact absurd (List.head_eq_of_cons_eq heq) (by decide)
      | cons other others =>
          rw [List.flatMap_cons, List.flatMap_cons, List.append_assoc, List.append_assoc] at heq
          obtain ⟨rfl, hrest⟩ := hitem (List.tail_eq_of_cons_eq (List.tail_eq_of_cons_eq heq))
          obtain ⟨rfl, hafter⟩ := ih hitems hrest
          exact ⟨rfl, hafter⟩

/-- A list in brackets is delimited if its items are, and no item begins with the bracket that ends
the list. -/
theorem isDelimited_bracketed {items : List α} (hitems : ∀ item ∈ items, IsDelimited write item)
    (hopens : ∀ item rest after, (write item).toList ++ rest ≠ ']' :: after) :
    IsDelimited (fun items => bracketed (items.map write)) items := by
  have hnil : ∀ rest, (bracketed []).toList ++ rest = '[' :: ']' :: rest := by simp [bracketed]
  have hcons : ∀ item others rest, (bracketed (List.map write (item :: others))).toList ++ rest =
      '[' :: ((write item).toList ++ ((others.flatMap fun item =>
        ',' :: ' ' :: (write item).toList) ++ ']' :: rest)) := by
    intro item others rest
    rw [bracketed, List.map_cons, String.toList_append, String.toList_append,
      toList_intercalate_cons, List.flatMap_map]
    simp
  intro others rest after heq
  dsimp only at heq
  cases items with
  | nil =>
      cases others with
      | nil => exact ⟨rfl, List.append_cancel_left heq⟩
      | cons other others =>
          rw [List.map_nil, hnil, hcons] at heq
          exact absurd (List.tail_eq_of_cons_eq heq).symm (hopens other _ _)
  | cons item items =>
      obtain ⟨hitem, hitems⟩ := List.forall_mem_cons.1 hitems
      cases others with
      | nil =>
          rw [List.map_nil, hnil, hcons] at heq
          exact absurd (List.tail_eq_of_cons_eq heq) (hopens item _ _)
      | cons other others =>
          rw [hcons, hcons] at heq
          obtain ⟨rfl, hrest⟩ := hitem (List.tail_eq_of_cons_eq heq)
          obtain ⟨rfl, hafter⟩ := flatMap_append_bracket hitems hrest
          exact ⟨rfl, hafter⟩

end

end TinyC
