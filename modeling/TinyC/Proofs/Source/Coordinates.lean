import TinyC.Proofs.Source

/-!
# Lines and columns are coordinates

The lookups of a source agree with each other and with its text: lines are what
the text splits into at its line feeds, each byte up to the length has one place,
different bytes have different places, in the same order, and a place leads back
to its byte.

## Strategy

Each lookup is known where the text is cut at a line (`Text.IsLine`), and every
line and every byte has such a cut.  Two bytes on different lines are told apart
by the line feeds before them, and two on one line by their distance from where it
starts.
-/

namespace TinyC.Source

variable {source : Source} {index byte : Nat} {head line tail : List Char}

/-! ## The table -/

/-- The line of a byte is its place in the table of line feeds, which is in order: those before
are smaller, and the next one is the byte itself or larger. -/
theorem search_lineBreaks (hindex : source.lineIndex? byte = some index) :
    source.lineBreaks.Pairwise (· < ·) ∧
      (∀ lineBreak ∈ source.lineBreaks.take index, lineBreak < byte) ∧
      ∀ lineBreak ∈ source.lineBreaks.drop index, byte ≤ lineBreak := by
  have hbyte : byte ≤ source.byteLength := by
    by_contra hbeyond
    rw [lineIndex?_eq, if_neg hbeyond] at hindex
    cases hindex
  obtain ⟨found, head, line, tail, hline, hlow, hhigh⟩ := Text.exists_isLine_of_byte hbyte
  rw [lineIndex?_of_isLine hline hlow hhigh] at hindex
  obtain rfl := Option.some.inj hindex
  have hlength : (lineBreaksFrom 0 head).length = found :=
    (length_lineBreaksFrom 0 head).trans hline.count_eq
  have hnone : ∀ offset, lineBreaksFrom offset line = [] := fun offset =>
    List.eq_nil_of_length_eq_zero
      ((length_lineBreaksFrom offset line).trans (List.count_eq_zero.2 hline.not_mem))
  refine ⟨?_, ?_, ?_⟩
  · rw [source.lineBreaks_eq]
    exact pairwise_lineBreaksFrom _ _
  · intro lineBreak hmem
    rw [source.lineBreaks_eq, hline.text_eq, lineBreaksFrom_append, List.take_left' hlength] at hmem
    have := mem_lineBreaksFrom hmem
    omega
  · intro lineBreak hmem
    rw [source.lineBreaks_eq, hline.text_eq, lineBreaksFrom_append, List.drop_left' hlength,
      lineBreaksFrom_append, hnone, List.nil_append] at hmem
    have := mem_lineBreaksFrom hmem
    omega

/-! ## Lines -/

theorem isSome_lineStart?_iff : (source.lineStart? index).isSome ↔ index < source.lineCount := by
  constructor
  · intro hsome
    by_contra hindex
    rw [lineStart?_eq_none (Nat.not_lt.1 hindex)] at hsome
    cases hsome
  · intro hindex
    obtain ⟨head, line, tail, hline⟩ := exists_isLine_of_lt hindex
    rw [lineStart?_of_isLine hline]
    rfl

/-- Later lines start later. -/
theorem lineStart?_lt {first second start later : Nat} (hlt : first < second)
    (hfirst : source.lineStart? first = some start)
    (hsecond : source.lineStart? second = some later) : start < later := by
  have hindex : second < source.lineCount := isSome_lineStart?_iff.1 (by rw [hsecond]; rfl)
  obtain ⟨head, line, tail, hline⟩ := exists_isLine_of_lt (hlt.trans hindex)
  obtain ⟨head', line', tail', hline'⟩ := exists_isLine_of_lt hindex
  rw [lineStart?_of_isLine hline] at hfirst
  rw [lineStart?_of_isLine hline'] at hsecond
  obtain rfl := Option.some.inj hfirst
  obtain rfl := Option.some.inj hsecond
  by_contra hle
  -- What stands before the later line would be a part of what stands before the other one.
  have hprefix : head' <+: head := Text.prefix_of_byteLength_le ⟨_, hline'.text_eq.symm⟩
    ⟨_, hline.text_eq.symm⟩ (Nat.not_lt.1 hle)
  have hcount := hprefix.sublist.count_le '\n'
  rw [hline.count_eq, hline'.count_eq] at hcount
  omega

/-- A text splits into one more piece than it has line feeds. -/
theorem length_splitOn (text : List Char) :
    (text.splitOn '\n').length = text.count '\n' + 1 := by
  rw [List.splitOn]
  induction text with
  | nil => rfl
  | cons c rest ih =>
      rw [List.splitOnP_cons_eq_if_modifyHead]
      by_cases hc : c = '\n' <;> simp [hc, ih]

/-- The pieces into which a text splits at its line feeds are its lines. -/
theorem splitOn_of_isLine {text : List Char} (hline : Text.IsLine text index head line tail) :
    (text.splitOn '\n')[index]? = some line := by
  have hpieces : ((line ++ tail).splitOn '\n')[0]? = some line := by
    have hplain : ∀ c ∈ line, (c == '\n') = false := fun c hc =>
      beq_eq_false_iff_ne.2 fun heq => hline.not_mem (heq ▸ hc)
    cases tail with
    | nil => rw [List.append_nil, List.splitOn, List.splitOnP_eq_singleton hplain]; rfl
    | cons c rest =>
        obtain rfl := hline.stops c rfl
        rw [List.splitOn, List.splitOnP_append_cons_of_forall_mem hplain _ (by rfl)]
        rfl
  rcases hline.head_cases with ⟨rfl, rfl⟩ | ⟨before, rfl, rfl⟩
  · rw [hline.text_eq]
    exact hpieces
  · have hlength := length_splitOn before
    rw [hline.text_eq, List.append_assoc, List.singleton_append, List.splitOn,
      List.splitOnP_append_cons _ _ (by rfl)]
    rw [List.splitOn] at hlength hpieces
    rw [List.getElem?_append_right (by omega), hlength, Nat.sub_self, hpieces]

/-! ## Places -/

theorem isSome_lineColumn?_iff :
    (source.lineColumn? byte).isSome ↔ byte ≤ source.byteLength := by
  constructor
  · intro hsome
    by_contra hbyte
    rw [lineColumn?, lineIndex?_eq, if_neg hbyte] at hsome
    cases hsome
  · intro hbyte
    obtain ⟨index, head, line, tail, hline, hlow, hhigh⟩ := Text.exists_isLine_of_byte hbyte
    rw [lineColumn?_of_isLine hline hlow hhigh]
    rfl

/-- What a place says: it is on a line that starts at or before the byte. -/
theorem exists_isLine_of_lineColumn? {place : Nat × Nat}
    (hplace : source.lineColumn? byte = some place) :
    ∃ index head line tail, Text.IsLine source.text.toList index head line tail ∧
      Text.byteLength head ≤ byte ∧ byte ≤ Text.byteLength head + Text.byteLength line ∧
      place = (index + 1, byte - Text.byteLength head + 1) := by
  have hbyte : byte ≤ source.byteLength := isSome_lineColumn?_iff.1 (by rw [hplace]; rfl)
  obtain ⟨index, head, line, tail, hline, hlow, hhigh⟩ := Text.exists_isLine_of_byte hbyte
  rw [lineColumn?_of_isLine hline hlow hhigh] at hplace
  exact ⟨index, head, line, tail, hline, hlow, hhigh, (Option.some.inj hplace).symm⟩

/-- A place, counted from one, leads back to its byte. -/
theorem add_column_eq {lineNumber column : Nat}
    (hplace : source.lineColumn? byte = some (lineNumber, column)) :
    1 ≤ lineNumber ∧ 1 ≤ column ∧
      ∃ start, source.lineStart? (lineNumber - 1) = some start ∧ start + column - 1 = byte := by
  obtain ⟨index, head, line, tail, hline, hlow, hhigh, hpair⟩ :=
    exists_isLine_of_lineColumn? hplace
  obtain ⟨rfl, rfl⟩ := Prod.mk.inj hpair
  exact ⟨by omega, by omega, _, lineStart?_of_isLine hline, by omega⟩

theorem lineFeedsBefore_mono (text : String) {first second : Nat} (hle : first ≤ second) :
    Text.lineFeedsBefore text first ≤ Text.lineFeedsBefore text second :=
  (List.take_sublist_take_left hle).count_le 0x0A

/-- Later bytes have later places. -/
theorem lineColumn?_lt {first second : Nat} {place later : Nat × Nat} (hlt : first < second)
    (hfirst : source.lineColumn? first = some place)
    (hsecond : source.lineColumn? second = some later) :
    Prod.Lex (· < ·) (· < ·) place later := by
  obtain ⟨index, head, line, tail, hline, hlow, hhigh, rfl⟩ := exists_isLine_of_lineColumn? hfirst
  obtain ⟨index', head', line', tail', hline', hlow', hhigh', rfl⟩ :=
    exists_isLine_of_lineColumn? hsecond
  have hmono := lineFeedsBefore_mono source.text hlt.le
  rw [Text.lineFeedsBefore_eq, Text.lineFeedsBefore_eq, hline.count_upTo hlow hhigh,
    hline'.count_upTo hlow' hhigh'] at hmono
  rcases hmono.lt_or_eq with hbefore | rfl
  · exact .left _ _ (Nat.succ_lt_succ hbefore)
  · have hstart := lineStart?_of_isLine hline
    rw [lineStart?_of_isLine hline'] at hstart
    obtain hstart := Option.some.inj hstart
    rw [hstart]
    exact .right _ (by omega)

/-- The lookups of a source are coordinates of its text. -/
structure HasCoordinates (source : Source) : Prop where
  /-- The line of a byte is the number of line feeds among the bytes before it. -/
  lineIndex?_eq : ∀ byte, source.lineIndex? byte =
    if byte ≤ (Text.encode source.text).length then some (Text.lineFeedsBefore source.text byte)
    else none
  /-- The bytes up to the length have places, and no others. -/
  isSome_lineColumn?_iff : ∀ byte,
    (source.lineColumn? byte).isSome ↔ byte ≤ (Text.encode source.text).length
  /-- A place, counted from one, leads back to its byte. -/
  add_column_eq : ∀ byte lineNumber column, source.lineColumn? byte = some (lineNumber, column) →
    1 ≤ lineNumber ∧ 1 ≤ column ∧
      ∃ start, source.lineStart? (lineNumber - 1) = some start ∧ start + column - 1 = byte
  /-- Different bytes have different places. -/
  lineColumn?_injective : ∀ first second place, source.lineColumn? first = some place →
    source.lineColumn? second = some place → first = second
  /-- Later bytes have later places. -/
  lineColumn?_lt : ∀ first second place later, first < second →
    source.lineColumn? first = some place → source.lineColumn? second = some later →
    Prod.Lex (· < ·) (· < ·) place later
  /-- There are as many lines as the text splits into. -/
  length_splitOn_eq : (source.text.toList.splitOn '\n').length = source.lineCount
  /-- The lines below their number start somewhere, and no others. -/
  isSome_lineStart?_iff : ∀ index, (source.lineStart? index).isSome ↔ index < source.lineCount
  /-- Later lines start later. -/
  lineStart?_lt : ∀ first second start later, first < second →
    source.lineStart? first = some start → source.lineStart? second = some later → start < later
  /-- The lines below their number have a text, and no others. -/
  isSome_line?_iff : ∀ index, (source.line? index).isSome ↔ index < source.lineCount
  /-- A line is cut out between characters. -/
  isBoundary_line : ∀ index start stop, source.lineStart? index = some start →
    (source.lineStart? (index + 1)).getD source.byteLength = stop →
    start ≤ stop ∧ Text.isBoundary start source.text.toList = true ∧
      Text.isBoundary stop source.text.toList = true
  /-- A line is a piece between line feeds, without the carriage return at its end if it has
  one. -/
  line?_splitOn : ∀ index piece, (source.text.toList.splitOn '\n')[index]? = some piece →
    ∃ line, source.line? index = some line ∧
      (piece = line ++ ['\r'] ∨ piece = line ∧ piece.getLast? ≠ some '\r')

/-- A text is itself without a character at its end, or with it. -/
theorem withoutEnd_cases (c : Char) (text : List Char) :
    text = withoutEnd c text ++ [c] ∨ text = withoutEnd c text ∧ text.getLast? ≠ some c := by
  by_cases hlast : text.getLast? = some c
  · left
    rw [withoutEnd, if_pos hlast]
    exact (List.dropLast_append_getLast? c hlast).symm
  · right
    rw [withoutEnd, if_neg hlast]
    exact ⟨rfl, hlast⟩

/-- Lines and columns are a faithful coordinate system of every source. -/
theorem hasCoordinates (source : Source) : HasCoordinates source where
  lineIndex?_eq byte := by
    rw [Text.length_encode]
    exact lineIndex?_eq source byte
  isSome_lineColumn?_iff byte := by
    rw [Text.length_encode]
    exact isSome_lineColumn?_iff
  add_column_eq byte lineNumber column := add_column_eq
  lineColumn?_injective first second place hfirst hsecond := by
    obtain ⟨-, -, start, hstart, rfl⟩ := add_column_eq hfirst
    obtain ⟨-, -, again, hagain, rfl⟩ := add_column_eq hsecond
    rw [Option.some.inj (hstart.symm.trans hagain)]
  lineColumn?_lt first second place later := lineColumn?_lt
  length_splitOn_eq := by rw [length_splitOn, lineCount_eq, Nat.add_comm]
  isSome_lineStart?_iff index := isSome_lineStart?_iff
  lineStart?_lt first second start later := lineStart?_lt
  isSome_line?_iff index := by
    constructor
    · intro hsome
      by_contra hindex
      rw [line?_eq_none (Nat.not_lt.1 hindex)] at hsome
      cases hsome
    · intro hindex
      obtain ⟨head, line, tail, hline⟩ := exists_isLine_of_lt hindex
      rw [line?_of_isLine hline]
      rfl
  isBoundary_line index start stop hstart hstop := by
    obtain ⟨head, line, tail, hline⟩ :=
      exists_isLine_of_lt (isSome_lineStart?_iff.1 (by rw [hstart]; rfl))
    rw [lineStart?_of_isLine hline] at hstart
    rw [stop_of_isLine hline] at hstop
    obtain rfl := Option.some.inj hstart
    subst hstop
    refine ⟨by omega, Text.isBoundary_iff.2 ⟨head, line ++ tail, hline.text_eq.symm, rfl⟩,
      Text.isBoundary_iff.2 ⟨head ++ (line ++ tail.take 1), tail.drop 1, ?_, by simp⟩⟩
    rw [hline.text_eq, List.append_assoc, List.append_assoc, List.take_append_drop]
  line?_splitOn index piece hpiece := by
    have hlength := length_splitOn source.text.toList
    have hlast := (List.getElem?_eq_some_iff.1 hpiece).1
    have hindex : index < source.lineCount := by rw [lineCount_eq]; omega
    obtain ⟨head, line, tail, hline⟩ := exists_isLine_of_lt hindex
    rw [splitOn_of_isLine hline] at hpiece
    obtain rfl := Option.some.inj hpiece
    exact ⟨_, line?_of_isLine hline, withoutEnd_cases '\r' line⟩

/-- Line feeds with and without a carriage return, and a character of several bytes before one. -/
example :
    let source := Source.ofText "coordinates" "é\r\nx\n"
    source.lineColumn? 5 = some (2, 2) ∧ source.line? 0 = some ['é'] ∧
      source.line? 2 = some [] := by
  decide

end TinyC.Source
