import Mathlib.Data.List.Induction
import Mathlib.Data.List.TakeWhile
import TinyC.Proofs.Text.Bytes
import TinyC.Source

/-!
# Lines of a source

A text can be cut at each of its lines: into what stands before the line, the
line without the line feed that ends it, and the rest.  Whatever the lookups of
a source say about a line or about a byte on it is said here in terms of such a
cut.

Every offset up to the end of a text lies on one line.  The offset of a line
feed, and the end of the text, count to the line that ends there.
-/

namespace TinyC

namespace Text

variable {text head line tail : List Char} {index offset : Nat}

/-- The text is cut at the line with the given number. -/
structure IsLine (text : List Char) (index : Nat) (head line tail : List Char) : Prop where
  text_eq : text = head ++ (line ++ tail)
  count_eq : head.count '\n' = index
  starts : ∀ c ∈ head.getLast?, c = '\n'
  not_mem : '\n' ∉ line
  stops : ∀ c ∈ tail.head?, c = '\n'

/-- A text ends with a line that has begun. -/
theorem exists_start (text : List Char) :
    ∃ head start, text = head ++ start ∧ (∀ c ∈ head.getLast?, c = '\n') ∧ '\n' ∉ start := by
  induction text using List.reverseRecOn with
  | nil => exact ⟨[], [], rfl, by simp, by simp⟩
  | append_singleton text c ih =>
      obtain ⟨head, start, rfl, hhead, hstart⟩ := ih
      by_cases hc : c = '\n'
      · exact ⟨head ++ start ++ [c], [], by simp, by simp [hc], by simp⟩
      · exact ⟨head, start ++ [c], by simp, hhead, by simp [hstart, Ne.symm hc]⟩

/-- A text begins with a line that has not ended. -/
theorem exists_stop (text : List Char) :
    ∃ stop tail, text = stop ++ tail ∧ '\n' ∉ stop ∧ ∀ c ∈ tail.head?, c = '\n' := by
  induction text with
  | nil => exact ⟨[], [], rfl, by simp, by simp⟩
  | cons c text ih =>
      obtain ⟨stop, tail, rfl, hstop, htail⟩ := ih
      by_cases hc : c = '\n'
      · exact ⟨[], c :: (stop ++ tail), rfl, by simp, by simp [hc]⟩
      · exact ⟨c :: stop, tail, rfl, by simp [hstop, Ne.symm hc], htail⟩

/-- Between any two parts of a text there is a line. -/
theorem exists_isLine (before after : List Char) :
    ∃ head start stop tail, before = head ++ start ∧ after = stop ++ tail ∧
      IsLine (before ++ after) (before.count '\n') head (start ++ stop) tail := by
  obtain ⟨head, start, rfl, hhead, hstart⟩ := exists_start before
  obtain ⟨stop, tail, rfl, hstop, htail⟩ := exists_stop after
  refine ⟨head, start, stop, tail, rfl, rfl, by simp, ?_, hhead, by simp [hstart, hstop], htail⟩
  rw [List.count_append, List.count_eq_zero.2 hstart, Nat.add_zero]

/-- There is a line for every number of line feeds before it. -/
theorem exists_isLine_of_le (hindex : index ≤ text.count '\n') :
    ∃ head line tail, IsLine text index head line tail := by
  have hbefore : ∃ before after, text = before ++ after ∧ before.count '\n' = index := by
    induction text generalizing index with
    | nil => exact ⟨[], [], rfl, (Nat.le_zero.1 hindex).symm⟩
    | cons c text ih =>
        rw [List.count_cons] at hindex
        cases index with
        | zero => exact ⟨[], c :: text, rfl, rfl⟩
        | succ index =>
            by_cases hc : c = '\n'
            · have hrest : index ≤ text.count '\n' := by simp_all
              obtain ⟨before, after, rfl, hcount⟩ := ih hrest
              exact ⟨c :: before, after, rfl, by simp [hc, hcount]⟩
            · have hrest : index + 1 ≤ text.count '\n' := by simp_all
              obtain ⟨before, after, rfl, hcount⟩ := ih hrest
              exact ⟨c :: before, after, rfl, by simp [hc, hcount]⟩
  obtain ⟨before, after, rfl, rfl⟩ := hbefore
  obtain ⟨head, start, stop, tail, -, -, hline⟩ := exists_isLine before after
  exact ⟨head, _, tail, hline⟩

/-- The text before a line is empty or ends with a line feed. -/
theorem IsLine.head_cases (hline : IsLine text index head line tail) :
    (index = 0 ∧ head = []) ∨
      ∃ before, head = before ++ ['\n'] ∧ index = before.count '\n' + 1 := by
  obtain ⟨-, rfl, hstarts, -, -⟩ := hline
  rcases List.eq_nil_or_concat' head with rfl | ⟨before, c, rfl⟩
  · exact .inl ⟨rfl, rfl⟩
  · obtain rfl : c = '\n' := hstarts c (by simp)
    exact .inr ⟨before, rfl, by simp⟩

/-- After a line feed there is the next line. -/
theorem IsLine.next {rest : List Char} (hline : IsLine text index head line ('\n' :: rest)) :
    ∃ line' tail', rest = line' ++ tail' ∧
      IsLine text (index + 1) (head ++ (line ++ ['\n'])) line' tail' := by
  obtain ⟨rfl, rfl, -, hline, -⟩ := hline
  obtain ⟨line', tail', rfl, hline', htail'⟩ := exists_stop rest
  refine ⟨line', tail', rfl, by simp, ?_, by simp, hline', htail'⟩
  simp [List.count_eq_zero.2 hline]

/-- Every offset up to the end of a text lies on a line. -/
theorem exists_isLine_of_byte (hoffset : offset ≤ byteLength text) :
    ∃ index head line tail, IsLine text index head line tail ∧
      byteLength head ≤ offset ∧ offset ≤ byteLength head + byteLength line := by
  obtain ⟨rest, htext⟩ := upTo_prefix_self offset text
  obtain ⟨head, start, stop, tail, hbefore, hrest, hline⟩ :=
    exists_isLine (upTo offset text) rest
  rw [htext] at hline
  have hle := byteLength_upTo_le offset text
  rw [hbefore, byteLength_append] at hle
  refine ⟨_, head, start ++ stop, tail, hline, by omega, ?_⟩
  cases hnext : stop ++ tail with
  | nil =>
      rw [hline.text_eq, List.append_assoc, hnext] at hoffset
      simpa [(List.append_eq_nil_iff.1 hnext).1] using hoffset
  | cons c others =>
      have hsplit : text = upTo offset text ++ c :: others := by rw [← hnext, ← hrest, htext]
      have hlt := lt_of_upTo hsplit
      rw [hbefore, byteLength_append] at hlt
      cases stop with
      | cons d stop =>
          obtain ⟨rfl, -⟩ := List.cons.inj hnext
          rw [byteLength_append, byteLength_cons]
          omega
      | nil =>
          -- The line ends with a line feed, which has one byte.
          obtain rfl : c = '\n' := hline.stops c (by simpa using congrArg List.head? hnext)
          have hsize : ('\n').utf8Size = 1 := rfl
          rw [List.append_nil]
          omega

/-- The line feeds before an offset on a line are those before the line. -/
theorem IsLine.count_upTo (hline : IsLine text index head line tail)
    (hlow : byteLength head ≤ offset) (hhigh : offset ≤ byteLength head + byteLength line) :
    (upTo offset text).count '\n' = index := by
  obtain ⟨rfl, rfl, -, hnone, -⟩ := hline
  rw [upTo_append_of_le hlow, List.count_append]
  have hpart : upTo (offset - byteLength head) (line ++ tail) <+: line :=
    prefix_of_byteLength_le (upTo_prefix_self _ _) (List.prefix_append _ _)
      (Nat.le_trans (byteLength_upTo_le _ _) (Nat.sub_le_iff_le_add'.2 hhigh))
  have hzero : '\n' ∉ upTo (offset - byteLength head) (line ++ tail) :=
    fun hmem => hnone (hpart.subset hmem)
  rw [List.count_eq_zero.2 hzero, Nat.add_zero]

end Text

/-! ## The table of line feeds -/

theorem lineBreaksFrom_append (offset : Nat) (first second : List Char) :
    lineBreaksFrom offset (first ++ second) =
      lineBreaksFrom offset first ++ lineBreaksFrom (offset + Text.byteLength first) second := by
  induction first generalizing offset with
  | nil => rfl
  | cons c rest ih =>
      rw [List.cons_append, lineBreaksFrom, lineBreaksFrom, ih, Text.byteLength_cons,
        ← Nat.add_assoc]
      split <;> rfl

theorem length_lineBreaksFrom (offset : Nat) (text : List Char) :
    (lineBreaksFrom offset text).length = text.count '\n' := by
  induction text generalizing offset with
  | nil => rfl
  | cons c rest ih =>
      rw [lineBreaksFrom]
      split <;> rename_i hc <;> simp [hc, ih]

theorem mem_lineBreaksFrom {offset lineBreak : Nat} {text : List Char}
    (hmem : lineBreak ∈ lineBreaksFrom offset text) :
    offset ≤ lineBreak ∧ lineBreak < offset + Text.byteLength text := by
  induction text generalizing offset with
  | nil => simp [lineBreaksFrom] at hmem
  | cons c rest ih =>
      have hpos := c.utf8Size_pos
      rw [Text.byteLength_cons]
      rw [lineBreaksFrom] at hmem
      split at hmem
      · rcases List.mem_cons.1 hmem with rfl | hmem
        · omega
        · have := ih hmem
          omega
      · have := ih hmem
        omega

/-- The table is in order. -/
theorem pairwise_lineBreaksFrom (offset : Nat) (text : List Char) :
    (lineBreaksFrom offset text).Pairwise (· < ·) := by
  induction text generalizing offset with
  | nil => exact .nil
  | cons c rest ih =>
      rw [lineBreaksFrom]
      split
      · refine List.pairwise_cons.2 ⟨fun lineBreak hmem => ?_, ih _⟩
        have hpos := c.utf8Size_pos
        have := mem_lineBreaksFrom hmem
        omega
      · exact ih _

namespace Source

variable {source : Source} {index offset : Nat} {head line tail : List Char}

theorem lineCount_eq (source : Source) : source.lineCount = 1 + source.text.toList.count '\n' := by
  rw [lineCount, source.lineBreaks_eq, length_lineBreaksFrom]

/-! ## Lookups by line -/

/-- A line starts after what stands before it. -/
theorem lineStart?_of_isLine (hline : Text.IsLine source.text.toList index head line tail) :
    source.lineStart? index = some (Text.byteLength head) := by
  rcases hline.head_cases with ⟨rfl, rfl⟩ | ⟨before, rfl, rfl⟩
  · rfl
  · rw [lineStart?, source.lineBreaks_eq, hline.text_eq, List.append_assoc, lineBreaksFrom_append,
      List.getElem?_append_right (Nat.le_of_eq (length_lineBreaksFrom 0 before)),
      length_lineBreaksFrom, Nat.sub_self]
    simp [lineBreaksFrom]
    rfl

theorem lineStart?_eq_none (hindex : source.lineCount ≤ index) :
    source.lineStart? index = none := by
  cases index with
  | zero => simp [lineCount_eq] at hindex
  | succ index =>
      have hlength := length_lineBreaksFrom 0 source.text.toList
      rw [lineCount_eq] at hindex
      rw [lineStart?, source.lineBreaks_eq, List.getElem?_eq_none (by omega)]
      rfl

theorem exists_isLine_of_lt (hindex : index < source.lineCount) :
    ∃ head line tail, Text.IsLine source.text.toList index head line tail :=
  Text.exists_isLine_of_le (by rw [lineCount_eq] at hindex; omega)

theorem index_lt_of_isLine (hline : Text.IsLine source.text.toList index head line tail) :
    index < source.lineCount := by
  rw [lineCount_eq, hline.text_eq, List.count_append, hline.count_eq]
  omega

theorem withoutEnd_append (c : Char) (text : List Char) : withoutEnd c (text ++ [c]) = text := by
  simp [withoutEnd]

theorem withoutEnd_of_not_mem {c : Char} {text : List Char} (hc : c ∉ text) :
    withoutEnd c text = text := by
  rw [withoutEnd, if_neg fun hlast => hc (List.mem_of_getLast? hlast)]

theorem withoutEnd_isPrefix (c : Char) (text : List Char) : withoutEnd c text <+: text := by
  rw [withoutEnd]
  split
  · exact List.dropLast_prefix text
  · exact List.prefix_rfl

/-- The end of a text is looked for after what does not end so. -/
theorem withoutEnd_append_of_ne {c : Char} {first : List Char}
    (hlast : ∀ last ∈ first.getLast?, last ≠ c) (second : List Char) :
    withoutEnd c (first ++ second) = first ++ withoutEnd c second := by
  rcases List.eq_nil_or_concat' second with rfl | ⟨others, last, rfl⟩
  · have hfirst : first.getLast? ≠ some c := fun heq => hlast c heq rfl
    simp [withoutEnd, hfirst]
  · by_cases hc : last = c
    · simp [withoutEnd, hc, ← List.append_assoc]
    · simp [withoutEnd, hc, ← List.append_assoc]

/-- Where the line after a line would start, or the text ends. -/
theorem stop_of_isLine (hline : Text.IsLine source.text.toList index head line tail) :
    (source.lineStart? (index + 1)).getD source.byteLength =
      Text.byteLength head + Text.byteLength (line ++ tail.take 1) := by
  cases tail with
  | nil =>
      have hlast : source.lineCount ≤ index + 1 := by
        rw [lineCount_eq, hline.text_eq, List.append_nil, List.count_append, hline.count_eq,
          List.count_eq_zero.2 hline.not_mem]
        omega
      rw [lineStart?_eq_none hlast, Option.getD_none, byteLength, hline.text_eq]
      simp
  | cons c rest =>
      obtain rfl := hline.stops c rfl
      obtain ⟨line', tail', -, hnext⟩ := hline.next
      rw [lineStart?_of_isLine hnext, Option.getD_some]
      simp

/-- A line is shown without the line feed that ends it, and without a carriage return before
that. -/
theorem line?_of_isLine (hline : Text.IsLine source.text.toList index head line tail) :
    source.line? index = some (withoutEnd '\r' line) := by
  rw [line?, lineStart?_of_isLine hline]
  dsimp only [bind, Option.bind]
  rw [stop_of_isLine hline, hline.text_eq]
  cases tail with
  | nil =>
      have hslice := Text.slice?_append head line []
      rw [List.append_nil] at hslice
      simp [hslice, withoutEnd_of_not_mem hline.not_mem]
  | cons c rest =>
      obtain rfl := hline.stops c rfl
      have hslice := Text.slice?_append head (line ++ ['\n']) rest
      rw [List.append_assoc, List.singleton_append] at hslice
      rw [List.take_succ_cons, List.take_zero, hslice]
      simp [withoutEnd_append]

theorem line?_eq_none (hindex : source.lineCount ≤ index) : source.line? index = none := by
  rw [line?, lineStart?_eq_none hindex]
  rfl

/-! ## Lookups by byte -/

/-- The line of a byte is the number of line feeds before it. -/
theorem lineIndex?_eq (source : Source) (offset : Nat) :
    source.lineIndex? offset =
      if offset ≤ source.byteLength then some (Text.lineFeedsBefore source.text offset)
      else none := by
  rw [lineIndex?, Text.lineFeedsBefore_eq]
  by_cases hoffset : offset ≤ source.byteLength
  · rw [if_neg (by omega), if_pos hoffset]
    obtain ⟨index, head, line, tail, hline, hlow, hhigh⟩ := Text.exists_isLine_of_byte hoffset
    rw [hline.count_upTo hlow hhigh, source.lineBreaks_eq, hline.text_eq, lineBreaksFrom_append]
    have hbefore : ∀ lineBreak ∈ lineBreaksFrom 0 head, decide (lineBreak < offset) = true := by
      intro lineBreak hmem
      have := mem_lineBreaksFrom hmem
      exact decide_eq_true (by omega)
    have hafter : (lineBreaksFrom (0 + Text.byteLength head) (line ++ tail)).takeWhile
        (fun lineBreak => decide (lineBreak < offset)) = [] := by
      have hnone : lineBreaksFrom (0 + Text.byteLength head) line = [] :=
        List.eq_nil_of_length_eq_zero
          ((length_lineBreaksFrom _ _).trans (List.count_eq_zero.2 hline.not_mem))
      rw [lineBreaksFrom_append, hnone, List.nil_append]
      refine List.takeWhile_eq_nil_iff.2 fun hpos => ?_
      have := mem_lineBreaksFrom (List.get_mem _ ⟨0, hpos⟩)
      simp only [decide_eq_true_eq]
      omega
    rw [List.takeWhile_append_of_pos hbefore, hafter, List.append_nil, length_lineBreaksFrom,
      hline.count_eq]
  · rw [if_pos (by omega), if_neg hoffset]

/-- A byte on a line has the line's number and its distance from the start of the line. -/
theorem lineIndex?_of_isLine (hline : Text.IsLine source.text.toList index head line tail)
    (hlow : Text.byteLength head ≤ offset)
    (hhigh : offset ≤ Text.byteLength head + Text.byteLength line) :
    source.lineIndex? offset = some index := by
  have hlength : offset ≤ source.byteLength := by
    rw [byteLength, hline.text_eq, Text.byteLength_append, Text.byteLength_append]
    omega
  rw [lineIndex?_eq, if_pos hlength, Text.lineFeedsBefore_eq, hline.count_upTo hlow hhigh]

theorem lineColumn?_of_isLine (hline : Text.IsLine source.text.toList index head line tail)
    (hlow : Text.byteLength head ≤ offset)
    (hhigh : offset ≤ Text.byteLength head + Text.byteLength line) :
    source.lineColumn? offset = some (index + 1, offset - Text.byteLength head + 1) := by
  rw [lineColumn?, lineIndex?_of_isLine hline hlow hhigh]
  dsimp only [bind, Option.bind]
  rw [lineStart?_of_isLine hline]
  rfl

end Source

end TinyC
