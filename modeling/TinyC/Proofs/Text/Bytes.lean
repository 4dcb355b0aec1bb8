import Mathlib.Data.List.Basic
import TinyC.Text.Bytes

/-!
# Offsets that may be cut at

A byte offset lies between two characters of a text, inside one, or beyond the
end.  `IsCut` is what is needed to cut there: that the offset is not inside a
character.  What then stands before it is `upTo`, which never goes through a
character, wherever the offset lies.

The offsets of line feeds are counted among the bytes of the UTF-8 form.  A byte
with the value of a line feed is always a whole character there, so the bytes
before an offset hold as many as the characters that end before it.
-/

namespace TinyC.Text

variable {offset : Nat} {text before after : List Char}

/-- A repeated character takes its bytes each time. -/
theorem byteLength_replicate (count : Nat) (c : Char) :
    byteLength (List.replicate count c) = count * c.utf8Size := by
  induction count with
  | zero => exact (Nat.zero_mul _).symm
  | succ count ih => rw [List.replicate_succ, byteLength_cons, ih, Nat.succ_mul, Nat.add_comm]

/-! ## Cutting -/

/-- An offset lies between two characters if the text has a beginning of that length. -/
theorem isBoundary_iff :
    isBoundary offset text = true ↔
      ∃ before after, before ++ after = text ∧ byteLength before = offset := by
  constructor
  · intro hboundary
    obtain ⟨⟨before, after⟩, hsplit⟩ := Option.isSome_iff_exists.1 hboundary
    exact ⟨before, after, splitAtByte?_eq_some hsplit⟩
  · rintro ⟨before, after, rfl, rfl⟩
    rw [isBoundary, splitAtByte?_byteLength]
    rfl

/-- The stretch between two beginnings of a text. -/
theorem slice?_append (before between after : List Char) :
    slice? (byteLength before) (byteLength before + byteLength between)
      (before ++ (between ++ after)) = some between := by
  rw [slice?, splitAtByte?_byteLength, Nat.add_sub_cancel_left]
  dsimp only [bind, Option.bind]
  rw [splitAtByte?_byteLength]
  rfl

/-- The offset goes through no character of the text. -/
def IsCut (offset : Nat) (text : List Char) : Prop :=
  isBoundary offset text = true ∨ byteLength text < offset

instance (offset : Nat) (text : List Char) : Decidable (IsCut offset text) :=
  inferInstanceAs (Decidable (_ ∨ _))

/-- The characters of a text that end at or before a byte offset. -/
def upTo : Nat → List Char → List Char
  | _, [] => []
  | offset, c :: rest => if c.utf8Size ≤ offset then c :: upTo (offset - c.utf8Size) rest else []

theorem upTo_prefix_self (offset : Nat) (text : List Char) : upTo offset text <+: text := by
  induction text generalizing offset with
  | nil => exact List.prefix_rfl
  | cons c rest ih =>
      rw [upTo]
      split
      · exact List.cons_prefix_cons.2 ⟨rfl, ih _⟩
      · exact List.nil_prefix

/-- Up to the end of a beginning there is that beginning. -/
theorem upTo_append (before after : List Char) :
    upTo (byteLength before) (before ++ after) = before := by
  induction before with
  | nil =>
      cases after with
      | nil => rfl
      | cons c rest =>
          have hpos := c.utf8Size_pos
          rw [List.nil_append, upTo, if_neg (by simp; omega)]
  | cons c rest ih =>
      rw [List.cons_append, upTo, byteLength_cons, if_pos (Nat.le_add_right _ _),
        Nat.add_sub_cancel_left, ih]

theorem upTo_of_byteLength_le (hle : byteLength text ≤ offset) : upTo offset text = text := by
  induction text generalizing offset with
  | nil => rfl
  | cons c rest ih =>
      rw [byteLength_cons] at hle
      rw [upTo, if_pos (by omega), ih (by omega)]

theorem byteLength_upTo_le (offset : Nat) (text : List Char) :
    byteLength (upTo offset text) ≤ offset := by
  induction text generalizing offset with
  | nil => exact Nat.zero_le _
  | cons c rest ih =>
      rw [upTo]
      split
      · have hrest := ih (offset - c.utf8Size)
        rw [byteLength_cons]
        omega
      · exact Nat.zero_le _

/-- The character after those that end before an offset ends beyond it. -/
theorem lt_of_upTo {offset : Nat} {c : Char} {text rest : List Char}
    (htext : text = upTo offset text ++ c :: rest) :
    offset < byteLength (upTo offset text) + c.utf8Size := by
  induction text generalizing offset with
  | nil => simp [upTo] at htext
  | cons first others ih =>
      rw [upTo] at htext ⊢
      split at htext
      · rename_i hfits
        rw [if_pos hfits, byteLength_cons]
        have hothers := ih (List.cons.inj htext).2
        omega
      · rename_i hfits
        rw [if_neg hfits]
        obtain ⟨rfl, -⟩ := List.cons.inj htext
        simpa using hfits

/-- Beyond a beginning of a text, what ends before an offset goes on after it. -/
theorem upTo_append_of_le (hle : byteLength before ≤ offset) :
    upTo offset (before ++ after) = before ++ upTo (offset - byteLength before) after := by
  induction before generalizing offset with
  | nil => rfl
  | cons c rest ih =>
      rw [byteLength_cons] at hle
      rw [List.cons_append, upTo, if_pos (by omega), ih (by omega), byteLength_cons, Nat.sub_sub]
      rfl

/-- Of two beginnings of a text, the one with fewer bytes is a beginning of the other. -/
theorem prefix_of_byteLength_le {first second : List Char} (hfirst : first <+: text)
    (hsecond : second <+: text) (hle : byteLength first ≤ byteLength second) :
    first <+: second := by
  rcases List.prefix_or_prefix_of_prefix hfirst hsecond with hprefix | ⟨rest, rfl⟩
  · exact hprefix
  · cases rest with
    | nil => simp
    | cons c rest =>
        have hpos := c.utf8Size_pos
        rw [byteLength_append, byteLength_cons] at hle
        omega

/-- A cut at an offset, or at the end if it lies beyond, is after the characters up to it. -/
theorem splitAtByte?_min (hcut : IsCut offset text) :
    splitAtByte? (min offset (byteLength text)) text =
      some (upTo offset text, text.drop (upTo offset text).length) := by
  obtain hboundary | hbeyond := hcut
  · obtain ⟨before, after, rfl, rfl⟩ := isBoundary_iff.1 hboundary
    rw [Nat.min_eq_left (by simp), upTo_append, List.drop_left, splitAtByte?_byteLength]
  · have hwhole := splitAtByte?_byteLength text []
    rw [List.append_nil] at hwhole
    rw [Nat.min_eq_right (by omega), upTo_of_byteLength_le (by omega), List.drop_length, hwhole]

theorem byteLength_upTo (hcut : IsCut offset text) :
    byteLength (upTo offset text) = min offset (byteLength text) :=
  (splitAtByte?_eq_some (splitAtByte?_min hcut)).2

theorem byteLength_upTo_le_min (offset : Nat) (text : List Char) :
    byteLength (upTo offset text) ≤ min offset (byteLength text) := by
  refine Nat.le_min.2 ⟨byteLength_upTo_le offset text, ?_⟩
  obtain ⟨rest, hrest⟩ := upTo_prefix_self offset text
  have hlength := congrArg byteLength hrest
  rw [byteLength_append] at hlength
  omega

/-- From a cut to another one, or to a place that is not behind it, there is what stands before the
second without what stands before the first. -/
theorem exists_splitAtByte?_drop {first second : Nat} (hfirst : IsCut first text)
    (hsecond : first < second → IsCut second text) :
    ∃ rest,
      splitAtByte? (max (min first (byteLength text)) (min second (byteLength text)) -
          min first (byteLength text)) (text.drop (upTo first text).length) =
        some ((upTo second text).drop (upTo first text).length, rest) := by
  have hlength := byteLength_upTo hfirst
  by_cases hlt : first < second
  · obtain ⟨between, hbetween⟩ :=
      prefix_of_byteLength_le (upTo_prefix_self first text) (upTo_prefix_self second text)
        (by rw [hlength, byteLength_upTo (hsecond hlt)]; omega)
    obtain ⟨rest, hrest⟩ := upTo_prefix_self second text
    have hwhole : text = upTo first text ++ (between ++ rest) := by
      rw [← List.append_assoc, hbetween, hrest]
    have htext := congrArg (List.drop (upTo first text).length) hwhole
    rw [List.drop_left] at htext
    refine ⟨rest, ?_⟩
    rw [Nat.max_eq_right (by omega), ← hlength, ← byteLength_upTo (hsecond hlt), htext, ← hbetween,
      List.drop_left, byteLength_append, Nat.add_sub_cancel_left, splitAtByte?_byteLength]
  · have hle := byteLength_upTo_le_min second text
    have hpart : upTo second text <+: upTo first text :=
      prefix_of_byteLength_le (upTo_prefix_self second text) (upTo_prefix_self first text)
        (by omega)
    have hnone := List.drop_eq_nil_of_le hpart.length_le
    refine ⟨text.drop (upTo first text).length, ?_⟩
    rw [Nat.max_eq_left (by omega), Nat.sub_self, hnone]
    exact splitAtByte?_byteLength [] _

/-- Behind a beginning of a text, its boundaries are those of what follows. -/
theorem isBoundary_append_of_le (hle : byteLength before ≤ offset) :
    isBoundary offset (before ++ after) = isBoundary (offset - byteLength before) after := by
  rw [Bool.eq_iff_iff, isBoundary_iff, isBoundary_iff]
  constructor
  · rintro ⟨first, rest, htext, rfl⟩
    obtain ⟨between, rfl⟩ :=
      prefix_of_byteLength_le (List.prefix_append before after) ⟨rest, htext⟩ hle
    rw [List.append_assoc] at htext
    exact ⟨between, rest, List.append_cancel_left htext, by simp⟩
  · rintro ⟨between, rest, rfl, hbetween⟩
    exact ⟨before ++ between, rest, List.append_assoc _ _ _, by rw [byteLength_append]; omega⟩

/-- An offset is a cut if the nearest one that is not beyond the text is a boundary. -/
theorem isBoundary_min_iff :
    isBoundary (min offset (byteLength text)) text = true ↔ IsCut offset text := by
  rcases Nat.lt_or_ge (byteLength text) offset with hbeyond | hwithin
  · rw [Nat.min_eq_right (Nat.le_of_lt hbeyond)]
    exact iff_of_true (isBoundary_iff.2 ⟨text, [], List.append_nil _, rfl⟩) (.inr hbeyond)
  · rw [Nat.min_eq_left hwithin, IsCut, or_iff_left (Nat.not_lt.2 hwithin)]

/-- A place that is moved behind a cut is a boundary if it was a cut, or lay before that one. -/
theorem isBoundary_max_iff {first second : Nat} (hfirst : IsCut first text) :
    isBoundary (max (min first (byteLength text)) (min second (byteLength text))) text = true ↔
      (first < second → IsCut second text) := by
  by_cases hlt : first < second
  · rw [Nat.max_eq_right (by omega), isBoundary_min_iff, forall_prop_of_true hlt]
  · rw [Nat.max_eq_left (by omega), isBoundary_min_iff]
    exact iff_of_true hfirst (absurd · hlt)

theorem isCut_zero (text : List Char) : IsCut 0 text :=
  .inl (isBoundary_iff.2 ⟨[], text, rfl, rfl⟩)

/-- A cut of a text is one of its beginnings. -/
theorem IsCut.of_isPrefix {part : List Char} (hcut : IsCut offset text) (hpart : part <+: text) :
    IsCut offset part := by
  by_cases hbeyond : byteLength part < offset
  · exact .inr hbeyond
  · obtain hboundary | hlong := hcut
    · obtain ⟨before, after, htext, rfl⟩ := isBoundary_iff.1 hboundary
      obtain ⟨stop, rfl⟩ :=
        prefix_of_byteLength_le ⟨after, htext⟩ hpart (Nat.not_lt.1 hbeyond)
      exact .inl (isBoundary_iff.2 ⟨before, stop, rfl, rfl⟩)
    · obtain ⟨rest, rfl⟩ := hpart
      rw [byteLength_append] at hlong
      omega

/-- A cut of a text is one of what follows a beginning, where it is nearer by its length. -/
theorem IsCut.sub_byteLength (hcut : IsCut offset (before ++ after)) :
    IsCut (offset - byteLength before) after := by
  by_cases hle : offset ≤ byteLength before
  · rw [Nat.sub_eq_zero_of_le hle]
    exact isCut_zero after
  · obtain hboundary | hlong := hcut
    · obtain ⟨start, stop, htext, rfl⟩ := isBoundary_iff.1 hboundary
      obtain ⟨between, rfl⟩ := prefix_of_byteLength_le (List.prefix_append before after)
        ⟨stop, htext⟩ (Nat.le_of_not_le hle)
      rw [List.append_assoc] at htext
      rw [byteLength_append, Nat.add_sub_cancel_left]
      exact .inl (isBoundary_iff.2 ⟨between, stop, List.append_cancel_left htext, rfl⟩)
    · rw [byteLength_append] at hlong
      exact .inr (by omega)

/-! ## Line feeds among bytes -/

/-- The number of line feeds among the bytes of a text before an offset. -/
def lineFeedsBefore (text : String) (offset : Nat) : Nat := ((encode text).take offset).count 0x0A

theorem encode_eq (text : String) : encode text = text.toList.flatMap String.utf8EncodeChar := by
  have hbytes : text.toByteArray = text.toList.utf8Encode := String.utf8Encode_toList.symm
  rw [encode, String.toUTF8, hbytes, List.utf8Encode, List.toList_data_toByteArray]

/-- The bytes of a text are read as that text. -/
theorem decode?_encode (text : String) : decode? (encode text) = some text := by
  have hbytes : (⟨(encode text).toArray⟩ : ByteArray) = text.toByteArray := by
    rw [encode, Array.toArray_toList]
    rfl
  rw [decode?, hbytes, String.fromUTF8?, dif_pos text.isValidUTF8]
  rfl

theorem length_flatMap_utf8EncodeChar (text : List Char) :
    (text.flatMap String.utf8EncodeChar).length = byteLength text := by
  induction text with
  | nil => rfl
  | cons c rest ih =>
      rw [List.flatMap_cons, List.length_append, String.length_utf8EncodeChar, ih, byteLength_cons]

theorem length_encode (text : String) : (encode text).length = byteLength text.toList := by
  rw [encode_eq, length_flatMap_utf8EncodeChar]

/-- No other character has a byte with the value of a line feed. -/
theorem not_mem_utf8EncodeChar {c : Char} (hc : c ≠ '\n') : 0x0A ∉ String.utf8EncodeChar c := by
  have hvalue : c.val.toNat ≠ 10 := fun heq => hc (Char.ext (UInt32.toNat_inj.1 heq))
  have hbyte : ∀ value < 256, value ≠ 10 → (0x0A : UInt8) ≠ UInt8.ofNat value := by
    intro value hlow hne heq
    have hnat := congrArg UInt8.toNat heq
    rw [UInt8.toNat_ofNat', Nat.mod_eq_of_lt hlow] at hnat
    exact hne hnat.symm
  unfold String.utf8EncodeChar
  dsimp only
  -- All bytes of a character beyond ASCII have their highest bit.
  split
  · exact fun hmem => hbyte _ (by omega) hvalue (List.mem_singleton.1 hmem)
  · split
    · simp only [List.mem_cons, List.not_mem_nil, or_false, not_or]
      exact ⟨hbyte _ (by omega) (by omega), hbyte _ (by omega) (by omega)⟩
    · split
      · simp only [List.mem_cons, List.not_mem_nil, or_false, not_or]
        refine ⟨?_, ?_, ?_⟩ <;> exact hbyte _ (by omega) (by omega)
      · simp only [List.mem_cons, List.not_mem_nil, or_false, not_or]
        refine ⟨?_, ?_, ?_, ?_⟩ <;> exact hbyte _ (by omega) (by omega)

/-- The bytes of characters hold as many line feeds as there are among the characters. -/
theorem count_flatMap_utf8EncodeChar (text : List Char) :
    (text.flatMap String.utf8EncodeChar).count 0x0A = text.count '\n' := by
  induction text with
  | nil => rfl
  | cons c rest ih =>
      rw [List.flatMap_cons, List.count_append, ih]
      by_cases hc : c = '\n'
      · rw [hc, List.count_cons_self, Nat.add_comm]
        rfl
      · rw [List.count_eq_zero.2 (not_mem_utf8EncodeChar hc), List.count_cons_of_ne hc, Nat.zero_add]

/-- The line feeds before an offset are those among the characters up to it. -/
theorem lineFeedsBefore_eq (text : String) (offset : Nat) :
    lineFeedsBefore text offset = (upTo offset text.toList).count '\n' := by
  obtain ⟨rest, htext⟩ := upTo_prefix_self offset text.toList
  have hlength := length_flatMap_utf8EncodeChar (upTo offset text.toList)
  have hle := byteLength_upTo_le offset text.toList
  rw [lineFeedsBefore, encode_eq]
  generalize hbefore : upTo offset text.toList = before at *
  rw [← htext, List.flatMap_append, List.take_append, List.take_of_length_le (by omega),
    List.count_append, count_flatMap_utf8EncodeChar, hlength]
  cases rest with
  | nil => simp
  | cons c rest =>
      -- The bytes that are left belong to one character, and not to a whole one.
      have hnext : offset < byteLength before + c.utf8Size := by
        rw [← hbefore]
        exact lt_of_upTo (by rw [hbefore, htext])
      have hsize := String.length_utf8EncodeChar c
      have hnone : 0x0A ∉ (String.utf8EncodeChar c).take (offset - byteLength before) := by
        by_cases hc : c = '\n'
        · subst hc
          have hzero : offset - byteLength before = 0 := by
            have : ('\n').utf8Size = 1 := rfl
            omega
          simp [hzero]
        · exact fun hmem => not_mem_utf8EncodeChar hc (List.mem_of_mem_take hmem)
      rw [List.flatMap_cons, List.take_append_of_le_length (by omega), List.count_eq_zero.2 hnone,
        Nat.add_zero]

end TinyC.Text
