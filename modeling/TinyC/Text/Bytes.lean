/-!
# Byte offsets in text

Offsets, lengths and columns are counted in the bytes of a text's UTF-8 form,
so an offset may fall inside a character.  A text is handled as the list of its
characters; this file measures such lists and cuts them at byte offsets.  A cut
that would go through a character does not exist.
-/

namespace TinyC.Text

/-- The number of bytes of a text. -/
def byteLength : List Char → Nat
  | [] => 0
  | c :: rest => c.utf8Size + byteLength rest

@[simp] theorem byteLength_nil : byteLength [] = 0 := rfl

@[simp] theorem byteLength_cons (c : Char) (rest : List Char) :
    byteLength (c :: rest) = c.utf8Size + byteLength rest := rfl

@[simp] theorem byteLength_append (first second : List Char) :
    byteLength (first ++ second) = byteLength first + byteLength second := by
  induction first with
  | nil => simp
  | cons c rest ih => simp [ih, Nat.add_assoc]

/-- The two parts of a text before and from a byte offset.  There are none if the offset lies
inside a character or beyond the end. -/
def splitAtByte? : Nat → List Char → Option (List Char × List Char)
  | 0, text => some ([], text)
  | _ + 1, [] => none
  | offset + 1, c :: rest =>
      if c.utf8Size ≤ offset + 1 then
        (splitAtByte? (offset + 1 - c.utf8Size) rest).map fun (before, after) =>
          (c :: before, after)
      else none

/-- Cutting a text loses nothing, and the first part ends at the offset. -/
theorem splitAtByte?_eq_some {text : List Char} : ∀ {offset : Nat} {before after : List Char},
    splitAtByte? offset text = some (before, after) →
      before ++ after = text ∧ byteLength before = offset := by
  induction text with
  | nil =>
      intro offset before after hsplit
      cases offset <;> simp_all [splitAtByte?]
  | cons c rest ih =>
      intro offset before after hsplit
      cases offset with
      | zero => simp_all [splitAtByte?]
      | succ offset =>
          rw [splitAtByte?] at hsplit
          split at hsplit
          · obtain ⟨⟨first, second⟩, hrest, heq⟩ := Option.map_eq_some_iff.1 hsplit
            simp only [Prod.mk.injEq] at heq
            obtain ⟨rfl, rfl⟩ := heq
            obtain ⟨happend, hlength⟩ := ih hrest
            exact ⟨by simp [happend], by simp; omega⟩
          · simp at hsplit

/-- A text can be cut after each of its beginnings. -/
theorem splitAtByte?_byteLength (before after : List Char) :
    splitAtByte? (byteLength before) (before ++ after) = some (before, after) := by
  induction before with
  | nil => simp [splitAtByte?]
  | cons c rest ih =>
      have hpos : 0 < c.utf8Size := c.utf8Size_pos
      obtain ⟨size, hsize⟩ : ∃ size, c.utf8Size + byteLength rest = size + 1 :=
        ⟨c.utf8Size + byteLength rest - 1, by omega⟩
      rw [byteLength_cons, hsize, List.cons_append, splitAtByte?, ← hsize]
      simp [ih]

/-- The bytes of a text's UTF-8 form. -/
def encode (text : String) : List UInt8 := text.toUTF8.data.toList

/-- The text with a UTF-8 form, if the bytes are one. -/
def decode? (bytes : List UInt8) : Option String := String.fromUTF8? ⟨bytes.toArray⟩

/-- Whether a byte offset lies between two characters or at an end of the text. -/
def isBoundary (offset : Nat) (text : List Char) : Bool :=
  (splitAtByte? offset text).isSome

/-- The part of a text between two byte offsets. -/
def slice? (start stop : Nat) (text : List Char) : Option (List Char) := do
  let (_, fromStart) ← splitAtByte? start text
  let (between, _) ← splitAtByte? (stop - start) fromStart
  return between

end TinyC.Text
