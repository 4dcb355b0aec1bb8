import TinyC.Proofs.Report.Rendering

/-!
# Gutters below each other

Every row of an excerpt between its heading and the blank row at its end begins
with a field, in which its line number stands at the right end if it has one, and
with the gutter.  The field is exactly as wide as the largest number in the excerpt,
so no number is longer than its field, and the gutters are in one column.

## Strategy

The lines of an excerpt all exist, so each of them is printed with its number, and
the largest is the number of the last line.  This is where the span of the excerpt
stops, counted from one instead of zero, and the field is made for that number.
-/

namespace TinyC

variable {screen : Screen} {theme : Theme} {severity : Severity} {sources : List Source}
  {report : Report} {fieldWidth : Nat}

/-! ## Fields -/

namespace Row

/-- The number of the line that a row shows. -/
def number? : Row → Option Nat
  | .line number _ => some number
  | _ => none

/-- What the field of a row shows: the number of its line, or nothing. -/
def label (row : Row) : String := (row.number?.map Numeral.ofNat).getD ""

/-- The row begins with a field of the given width, in which its label stands at the right end. -/
def IsAligned (theme : Theme) (severity : Severity) (fieldWidth : Nat) (row : Row) : Prop :=
  ∃ blanks rest,
    row.printed theme severity fieldWidth = margin theme (spaces blanks ++ row.label) ++ rest ∧
      blanks + row.label.length = fieldWidth ∧
      Text.width (spaces blanks ++ row.label).toList = fieldWidth

theorem toList_spaces (count : Nat) : (spaces count).toList = List.replicate count ' ' :=
  String.toList_ofList

theorem isPrinting_spaces (count : Nat) :
    ∀ c ∈ (spaces count).toList, Text.isPrinting c = true := by
  rw [toList_spaces]
  exact Text.isPrinting_blanks count

theorem isPrinting_ofNat (value : Nat) :
    ∀ c ∈ (Numeral.ofNat value).toList, Text.isPrinting c = true := by
  intro c hc
  rw [Numeral.ofNat, String.toList_ofList] at hc
  have hdigit := Numeral.isDigit_of_mem_digits value c hc
  simp only [Char.isDigit, Bool.and_eq_true, decide_eq_true_eq] at hdigit
  simp only [Text.isPrinting, Bool.and_eq_true, decide_eq_true_eq, Char.le_def]
  exact ⟨UInt32.le_trans (by decide) hdigit.1, UInt32.le_trans hdigit.2 (by decide)⟩

theorem isPrinting_label (row : Row) : ∀ c ∈ row.label.toList, Text.isPrinting c = true := by
  cases row with
  | line number text => exact isPrinting_ofNat number
  | _ => exact nofun

/-- A field takes as many columns as it has characters. -/
theorem width_field (blanks : Nat) (row : Row) :
    Text.width (spaces blanks ++ row.label).toList = blanks + row.label.length := by
  have hfield : ∀ c ∈ (spaces blanks ++ row.label).toList, Text.isPrinting c = true := by
    rw [String.toList_append]
    exact List.forall_mem_append.2 ⟨isPrinting_spaces blanks, isPrinting_label row⟩
  rw [Text.width_of_isPrinting hfield, String.toList_append, List.length_append, toList_spaces,
    List.length_replicate, String.length_toList]

theorem isAligned_of_printed {row : Row} {blanks : Nat} {rest : String}
    (hprinted : row.printed theme severity fieldWidth =
      margin theme (spaces blanks ++ row.label) ++ rest)
    (hlength : blanks + row.label.length = fieldWidth) :
    row.IsAligned theme severity fieldWidth :=
  ⟨blanks, rest, hprinted, hlength, (width_field blanks row).trans hlength⟩

/-- A number that is not longer than its field stands at the right end of it. -/
theorem isAligned_line {number : Nat} (hfits : (Numeral.ofNat number).length ≤ fieldWidth)
    (text : List Char) : (Row.line number text).IsAligned theme severity fieldWidth := by
  have hprinted := printed_eq_text theme severity fieldWidth (.line number text)
  rw [Row.text, ← Numeral.ofNat_eq_toString, String.append_assoc] at hprinted
  exact isAligned_of_printed hprinted (Nat.sub_add_cancel hfits)

theorem isAligned_underline (role : Snippet.Role) (offset count : Nat) (label : String) :
    (Row.underline role offset count label).IsAligned theme severity fieldWidth := by
  have hprinted := printed_eq_text theme severity fieldWidth (.underline role offset count label)
  rw [Row.text, ← String.append_empty (s := spaces fieldWidth)] at hprinted
  simp only [String.append_assoc] at hprinted
  exact isAligned_of_printed hprinted (Nat.add_zero fieldWidth)

end Row

/-! ## Excerpts -/

theorem Span.lt_stop_of_mem_positions {span : Span} {position : Nat}
    (hposition : position ∈ span.positions) : position < span.stop :=
  (contains_iff.1 (mem_positions.1 hposition)).2

namespace Source

variable {source : Source} {snippets : List Snippet} {line : Nat}

/-- What the rows under lines do not have is taken from the lines. -/
theorem filterMap_lineRows {α : Type} {f : Row → Option α}
    (hunderline : ∀ role offset count label, f (.underline role offset count label) = none)
    (screen : Screen) (source : Source) (snippets : List Snippet) (line : Nat) :
    (source.lineRows screen snippets line).filterMap f =
      (f (.line (line + 1) ((source.line? line).getD []))).toList := by
  have hnone : ((snippets.filter fun snippet => snippet.line source = line).map
      (Snippet.row screen source)).filterMap f = [] := by
    rw [List.filterMap_map]
    exact List.filterMap_eq_nil_iff.2 fun snippet _ => hunderline _ _ _ _
  rw [lineRows, List.filterMap_cons, hnone]
  cases f (.line (line + 1) ((source.line? line).getD [])) <;> rfl

/-- The numbers of consecutive lines are counted from one. -/
theorem filterMap_flatMap_lineRows (screen : Screen) (source : Source) (snippets : List Snippet)
    (lines : List Nat) :
    (lines.flatMap (source.lineRows screen snippets)).filterMap Row.number? =
      lines.map (· + 1) := by
  rw [List.filterMap_flatMap, ← List.flatMap_singleton' (lines.map _), List.flatMap_map]
  exact List.flatMap_congr fun line _ =>
    filterMap_lineRows (fun _ _ _ _ => rfl) screen source snippets line

theorem isAligned_of_mem_lineRows {row : Row}
    (hfits : (Numeral.ofNat (line + 1)).length ≤ fieldWidth)
    (hrow : row ∈ source.lineRows screen snippets line) :
    row.IsAligned theme severity fieldWidth := by
  rcases List.mem_cons.1 hrow with rfl | hrow
  · exact Row.isAligned_line hfits _
  · obtain ⟨snippet, -, rfl⟩ := List.mem_map.1 hrow
    exact Row.isAligned_underline _ _ _ _

end Source

namespace Report

theorem exists_stretch_of_mem_excerpts {excerpt : Excerpt}
    (hexcerpt : excerpt ∈ report.excerpts theme sources) :
    ∃ view ∈ report.views theme sources, ∃ stretch ∈ view.stretches,
      excerpt = Excerpt.ofSnippets view.source stretch.items stretch.span := by
  rw [excerpts_eq] at hexcerpt
  obtain ⟨pair, hpair, rfl⟩ := List.mem_map.1 hexcerpt
  obtain ⟨view, hview, hpair⟩ := List.mem_flatMap.1 hpair
  obtain ⟨stretch, hstretch, rfl⟩ := List.mem_map.1 hpair
  exact ⟨view, hview, stretch, hstretch, rfl⟩

/-- In every excerpt of a report all lines are printed with their numbers, the field before the
gutter has the width of the largest of them, and each row between the heading and the blank row
has its label at the right end of that field. -/
theorem excerpts_aligned (screen : Screen) (theme : Theme) (sources : List Source)
    (report : Report) {excerpt : Excerpt} (hexcerpt : excerpt ∈ report.excerpts theme sources) :
    ∃ faults first rows,
      excerpt.segments screen theme report.severity = outcome faults
        ((Excerpt.headingOf excerpt.source first :: rows ++ [Row.blank]).flatMap
          (Row.segments theme report.severity excerpt.fieldWidth)) ∧
      rows.filterMap Row.number? = excerpt.lines.positions.map (· + 1) ∧
      (∃ largest ∈ rows.filterMap Row.number?,
        (∀ number ∈ rows.filterMap Row.number?, number ≤ largest) ∧
          excerpt.fieldWidth = (Numeral.ofNat largest).length) ∧
      ∀ row ∈ rows, row.IsAligned theme report.severity excerpt.fieldWidth := by
  obtain ⟨view, hview, stretch, hstretch, rfl⟩ := exists_stretch_of_mem_excerpts hexcerpt
  have hisOf := View.isOf_of_mem hview
  obtain ⟨first, -, hfirst, hline⟩ := hisOf.isComplete.heading stretch hstretch
  have hstart := Span.contains_iff.1 hline
  have hnumbers := Source.filterMap_flatMap_lineRows screen view.source view.snippets
    stretch.span.positions
  have hwidth := Excerpt.fieldWidth_ofSnippets view.source stretch.items
    (hisOf.stop_pos hstretch)
  refine ⟨stretch.span.positions.flatMap (view.source.lineFaults screen view.snippets), first,
    stretch.span.positions.flatMap (view.source.lineRows screen view.snippets), ?_, hnumbers,
    ⟨stretch.span.stop, ?_, ?_, hwidth⟩, ?_⟩
  · rw [Excerpt.segments, rows_eq screen hisOf hstretch, View.rows, hfirst]
    cases stretch.span.positions.flatMap (view.source.lineFaults screen view.snippets) <;> rfl
  · rw [hnumbers, List.mem_map]
    refine ⟨stretch.span.stop - 1, Span.mem_positions.2 (Span.contains_iff.2 ?_), by omega⟩
    omega
  · intro number hnumber
    rw [hnumbers] at hnumber
    obtain ⟨line, hline, rfl⟩ := List.mem_map.1 hnumber
    exact Span.lt_stop_of_mem_positions hline
  · intro row hrow
    obtain ⟨line, hline, hrow⟩ := List.mem_flatMap.1 hrow
    refine Source.isAligned_of_mem_lineRows ?_ hrow
    rw [hwidth]
    exact Numeral.length_ofNat_mono (Span.lt_stop_of_mem_positions hline)

/-- The numbers 9 and 10 in a field for two digits. -/
theorem excerpts_aligned_ten :
    let source := Source.ofText "t" "\n\n\n\n\n\n\n\n\n"
    let snippet : Snippet := ⟨"end", .primary, 0, ⟨9, 9⟩⟩
    let report : Report := ⟨.error, none, [snippet], []⟩
    let excerpt := Excerpt.ofSnippets source [snippet] ⟨8, 10⟩
    excerpt ∈ report.excerpts {} [source] ∧ excerpt.fieldWidth = 2 ∧
    (excerpt.segments .standard {} .error).map (Segment.write false) =
      .ok ("In t:10:1\n" ++ " 9 │ \n" ++ "10 │ \n" ++ "   │ ^ end\n" ++ "\n") ∧
    ∃ first rows,
      excerpt.segments .standard {} .error = .ok
        ((Excerpt.headingOf source first :: rows ++ [Row.blank]).flatMap
          (Row.segments {} .error 2)) ∧
      rows.filterMap Row.number? = [9, 10] ∧
      (∃ largest ∈ rows.filterMap Row.number?,
        (∀ number ∈ rows.filterMap Row.number?, number ≤ largest) ∧
          2 = (Numeral.ofNat largest).length) ∧
      ∀ row ∈ rows, row.IsAligned {} .error 2 := by
  intro source snippet report excerpt
  have hwindow : snippet.window 1 source = ⟨8, 10⟩ := by decide
  have hexcerpt : excerpt ∈ report.excerpts {} [source] := by
    have hexcerpts := @excerpts_of_single [source] source snippet report {} rfl rfl (by decide)
    rw [hexcerpts, hwindow]
    exact List.mem_singleton_self _
  have hwidth : excerpt.fieldWidth = 2 := by decide +kernel
  have hprinted : (excerpt.segments .standard {} .error).map (Segment.write false) =
      .ok ("In t:10:1\n" ++ " 9 │ \n" ++ "10 │ \n" ++ "   │ ^ end\n" ++ "\n") := by
    decide +kernel
  obtain ⟨faults, first, rows, hsegments, haligned⟩ :=
    excerpts_aligned .standard {} [source] report hexcerpt
  rw [hwidth] at hsegments haligned
  refine ⟨hexcerpt, hwidth, hprinted, first, rows, ?_, haligned⟩
  cases faults with
  | nil => exact hsegments
  | cons fault rest =>
      -- A fault would have kept the excerpt from being printed.
      rw [show excerpt.segments .standard {} .error = .error fault from hsegments] at hprinted
      cases hprinted

end Report

end TinyC
