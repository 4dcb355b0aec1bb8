import TinyC.Proofs.Report.Marks
import TinyC.Proofs.Report.Windows

/-!
# The rows of an excerpt

An excerpt has the rows that one would write down: the heading, every line with
its number, under it one row for each snippet that starts on it, and a blank row.
It has none if one of these snippets cannot be drawn, because a bound of it goes
through a character of its line, or because the field of spaces before its signs
is too wide.  Nothing else can go wrong.

## Strategy

What is wrong with a snippet is decided on its line, onto which its bounds are
moved first (`Snippet.faults`).  Every step has its result if there are no faults,
and fails with the first one otherwise (`outcome`), so that along the steps only
the lists of faults and of rows have to be put together.

A cut of the source is a cut of each of its lines, so that both bounds of a
snippet are where they should be, also if they lie beyond the line or are reversed
(`Snippet.IsPlaced`).  Only the field can be too wide then.
-/

namespace TinyC

variable {screen : Screen} {source : Source} {snippet : Snippet} {snippets : List Snippet}

/-! ## Faults -/

/-- A result, or the first of the faults if there are any. -/
def outcome {α : Type} (faults : List Fault) (result : α) : Except Fault α :=
  match faults with
  | [] => .ok result
  | first :: _ => .error first

theorem eq_of_outcome_eq_ok {α : Type} {faults : List Fault} {result value : α}
    (houtcome : outcome faults result = .ok value) : faults = [] ∧ result = value := by
  cases faults with
  | nil => exact ⟨rfl, Except.ok.inj houtcome⟩
  | cons first rest => cases houtcome

/-- The results of all items, or the first fault of them. -/
theorem mapM_eq_outcome {α β : Type} {f : α → Except Fault β} {result : α → β}
    {faults : α → List Fault} {items : List α}
    (hitems : ∀ item ∈ items, f item = outcome (faults item) (result item)) :
    items.mapM f = outcome (items.flatMap faults) (items.map result) := by
  induction items with
  | nil => rfl
  | cons item rest ih =>
      have hitem := hitems item List.mem_cons_self
      have hrest := ih fun other hother => hitems other (List.mem_cons_of_mem _ hother)
      rw [List.mapM_cons, hitem, hrest, List.flatMap_cons, List.map_cons]
      cases faults item <;> cases rest.flatMap faults <;> rfl

namespace Snippet

/-- The text of the line on which the snippet starts, as far as there is such a line. -/
def lineText (source : Source) (snippet : Snippet) : List Char :=
  (source.line? (snippet.line source)).getD []

/-- Where the line on which the snippet starts begins. -/
def lineStart (source : Source) (snippet : Snippet) : Nat :=
  (source.lineStart? (snippet.line source)).getD 0

/-- What stands before the snippet on its line. -/
def before (source : Source) (snippet : Snippet) : List Char :=
  Text.upTo (snippet.span.start - snippet.lineStart source) (snippet.lineText source)

/-- What the snippet covers of its line. -/
def covered (source : Source) (snippet : Snippet) : List Char :=
  (Text.upTo (snippet.span.stop - snippet.lineStart source) (snippet.lineText source)).drop
    (snippet.before source).length

/-- The row under the line on which the snippet starts. -/
def row (screen : Screen) (source : Source) (snippet : Snippet) : Row :=
  .underline snippet.role (Row.columns screen (snippet.before source))
    (max (Row.columns screen (snippet.covered source)) 1) snippet.label

/-- Whether the screen has a field as wide as what stands before the snippet. -/
def fits (screen : Screen) (source : Source) (snippet : Snippet) : Bool :=
  screen.hasField (Row.columns screen (snippet.before source))

/-- Where the signs of the snippet begin on its line: at its end, if the snippet lies beyond. -/
def first (source : Source) (snippet : Snippet) : Nat :=
  min (snippet.span.start - snippet.lineStart source) (Text.byteLength (snippet.lineText source))

/-- Where the signs of the snippet end on its line, which is not before they begin. -/
def last (source : Source) (snippet : Snippet) : Nat :=
  max (snippet.first source)
    (min (snippet.span.stop - snippet.lineStart source)
      (Text.byteLength (snippet.lineText source)))

/-- The signs begin and end between characters of the line. -/
def IsBetween (source : Source) (snippet : Snippet) : Prop :=
  Text.isBoundary (snippet.first source) (snippet.lineText source) = true ∧
    Text.isBoundary (snippet.last source) (snippet.lineText source) = true

instance : Decidable (snippet.IsBetween source) := inferInstanceAs (Decidable (_ ∧ _))

/-- What keeps the snippet from being drawn. -/
def faults (screen : Screen) (source : Source) (snippet : Snippet) : List Fault :=
  if ¬snippet.IsBetween source then [.insideCharacter]
  else if snippet.fits screen source then []
  else [.beyondField]

/-- The snippet starts inside the source, and its bounds go through no character. -/
structure IsPlaced (source : Source) (snippet : Snippet) : Prop where
  start_le : snippet.span.start ≤ source.byteLength
  cut_start : Text.IsCut snippet.span.start source.text.toList
  cut_stop : Text.IsCut snippet.span.stop source.text.toList

end Snippet

/-! ## Lines -/

/-- A cut of a text is one of each of its lines as it is shown. -/
theorem Text.IsLine.isCut {text head line tail : List Char} {index offset : Nat}
    (hline : Text.IsLine text index head line tail) (hcut : Text.IsCut offset text) :
    Text.IsCut (offset - Text.byteLength head) (Source.withoutEnd '\r' line) := by
  rw [hline.text_eq] at hcut
  have hshown : Source.withoutEnd '\r' line <+: line ++ tail :=
    (Source.withoutEnd_isPrefix '\r' line).trans (List.prefix_append line tail)
  exact hcut.sub_byteLength.of_isPrefix hshown

/-- A snippet that starts inside its source has a line, and it starts after the beginning of it. -/
theorem Snippet.exists_isLine (hstart : snippet.span.start ≤ source.byteLength) :
    ∃ head line tail, Text.IsLine source.text.toList (snippet.line source) head line tail ∧
      Text.byteLength head ≤ snippet.span.start ∧
      snippet.span.start ≤ Text.byteLength head + Text.byteLength line := by
  obtain ⟨index, head, line, tail, hline, hlow, hhigh⟩ := Text.exists_isLine_of_byte hstart
  have hindex : snippet.line source = index := by
    rw [Snippet.line, Text.lineFeedsBefore_eq, hline.count_upTo hlow hhigh]
  exact ⟨head, line, tail, hindex ▸ hline, hlow, hhigh⟩

/-- A snippet that starts inside its source starts on a line that has a text. -/
theorem Snippet.exists_line (hstart : snippet.span.start ≤ source.byteLength) :
    source.line? (snippet.line source) = some (snippet.lineText source) ∧
      source.lineStart? (snippet.line source) = some (snippet.lineStart source) ∧
      snippet.lineStart source ≤ snippet.span.start := by
  obtain ⟨head, line, tail, hline, hlow, -⟩ := Snippet.exists_isLine hstart
  rw [Snippet.lineText, Snippet.lineStart, Source.line?_of_isLine hline,
    Source.lineStart?_of_isLine hline]
  exact ⟨rfl, rfl, hlow⟩

/-- Nothing but a cut or the field can fail on a line that begins before the mark. -/
theorem Mark.underline_eq {mark : Mark} {text : List Char} {lineStart first last : Nat}
    (hstart : lineStart ≤ mark.span.start)
    (hfirst : first = min (mark.span.start - lineStart) (Text.byteLength text))
    (hlast : last = max first (min (mark.span.stop - lineStart) (Text.byteLength text))) :
    mark.underline screen text lineStart =
      match Text.splitAtByte? first text with
      | none => .error .insideCharacter
      | some (before, fromStart) =>
          match Text.splitAtByte? (last - first) fromStart with
          | none => .error .insideCharacter
          | some (marked, _) =>
              if screen.hasField (Row.columns screen before) then
                .ok (.underline mark.role (Row.columns screen before)
                  (max (Row.columns screen marked) 1) mark.label)
              else .error .beyondField := by
  have hinside : ¬Text.byteLength text < first := Nat.not_lt.2 (hfirst ▸ Nat.min_le_right _ _)
  rw [Mark.underline, if_neg (Nat.not_lt.2 hstart)]
  dsimp only [bind, Except.bind, pure, Except.pure]
  rw [← hfirst, ← hlast, if_neg hinside]
  cases Text.splitAtByte? first text with
  | none => rfl
  | some cut =>
      obtain ⟨before, fromStart⟩ := cut
      dsimp only
      cases Text.splitAtByte? (last - first) fromStart with
      | none => rfl
      | some cut => cases screen.hasField (Row.columns screen before) <;> rfl

/-- The signs of a snippet stand under what it covers of its line, if nothing is wrong with it. -/
theorem Snippet.underline_mark (screen : Screen)
    (hstart : snippet.span.start ≤ source.byteLength) :
    (snippet.mark source).underline screen (snippet.lineText source) (snippet.lineStart source) =
      outcome (snippet.faults screen source) (snippet.row screen source) := by
  obtain ⟨-, -, hlow⟩ := Snippet.exists_line hstart
  have hle : snippet.first source ≤ snippet.last source := Nat.le_max_left _ _
  rw [@Mark.underline_eq screen (snippet.mark source) _ _ (snippet.first source)
    (snippet.last source) hlow rfl rfl]
  by_cases hbetween : snippet.IsBetween source
  · have hfirst := Text.isBoundary_min_iff.1 hbetween.1
    obtain ⟨rest, hcovered⟩ :=
      Text.exists_splitAtByte?_drop hfirst ((Text.isBoundary_max_iff hfirst).1 hbetween.2)
    have hbefore : Text.splitAtByte? (snippet.first source) (snippet.lineText source) =
        some (snippet.before source, (snippet.lineText source).drop (snippet.before source).length) :=
      Text.splitAtByte?_min hfirst
    have hcovered : Text.splitAtByte? (snippet.last source - snippet.first source)
        ((snippet.lineText source).drop (snippet.before source).length) =
          some (snippet.covered source, rest) := hcovered
    rw [hbefore]
    dsimp only
    rw [hcovered, Snippet.faults, if_neg (not_not.2 hbetween), Snippet.fits]
    dsimp only
    cases screen.hasField (Row.columns screen (snippet.before source)) <;> rfl
  · rw [Snippet.faults, if_pos hbetween]
    cases hsplit : Text.splitAtByte? (snippet.first source) (snippet.lineText source) with
    | none => rfl
    | some cut =>
        obtain ⟨before, fromStart⟩ := cut
        obtain ⟨htext, hlength⟩ := Text.splitAtByte?_eq_some hsplit
        -- The first cut exists, so it is the second one that does not.
        have hnone : Text.splitAtByte? (snippet.last source - snippet.first source) fromStart =
            none := by
          rw [← Option.not_isSome_iff_eq_none]
          intro hsome
          refine hbetween ⟨?_, ?_⟩
          · rw [Text.isBoundary, hsplit]
            rfl
          · rw [← htext, Text.isBoundary_append_of_le (hlength ▸ hle), hlength]
            exact hsome
        dsimp only
        rw [hnone]
        rfl

/-- Between the bounds of a snippet that can be placed, only the field can be too wide. -/
theorem Snippet.IsPlaced.faults_eq (screen : Screen) (hplaced : snippet.IsPlaced source) :
    snippet.faults screen source =
      if snippet.fits screen source then [] else [.beyondField] := by
  obtain ⟨head, line, tail, hline, -, -⟩ := Snippet.exists_isLine hplaced.start_le
  have htext : snippet.lineText source = Source.withoutEnd '\r' line := by
    rw [Snippet.lineText, Source.line?_of_isLine hline, Option.getD_some]
  have hstart : snippet.lineStart source = Text.byteLength head := by
    rw [Snippet.lineStart, Source.lineStart?_of_isLine hline, Option.getD_some]
  have hfirst : Text.IsCut (snippet.span.start - snippet.lineStart source)
      (snippet.lineText source) := by
    rw [htext, hstart]
    exact hline.isCut hplaced.cut_start
  have hlast : Text.IsCut (snippet.span.stop - snippet.lineStart source)
      (snippet.lineText source) := by
    rw [htext, hstart]
    exact hline.isCut hplaced.cut_stop
  rw [Snippet.faults, if_neg]
  exact not_not.2 ⟨Text.isBoundary_min_iff.2 hfirst, (Text.isBoundary_max_iff hfirst).2 fun _ => hlast⟩

/-- A line with its number, and under it the snippets that start on it. -/
def Source.lineRows (screen : Screen) (source : Source) (snippets : List Snippet) (line : Nat) :
    List Row :=
  .line (line + 1) ((source.line? line).getD []) ::
    (snippets.filter fun snippet => snippet.line source = line).map (Snippet.row screen source)

/-- What keeps the snippets that start on a line from being drawn. -/
def Source.lineFaults (screen : Screen) (source : Source) (snippets : List Snippet) (line : Nat) :
    List Fault :=
  (snippets.filter fun snippet => snippet.line source = line).flatMap
    (Snippet.faults screen source)

/-! ## Excerpts -/

namespace Excerpt

/-- The excerpt that shows snippets on given lines. -/
def ofSnippets (source : Source) (snippets : List Snippet) (lines : Span) : Excerpt :=
  ⟨source, snippets.map (Snippet.mark source), lines⟩

/-- The marks on a line have the rows of the snippets that start there. -/
theorem mapM_underline (screen : Screen)
    (hinside : ∀ snippet ∈ snippets, snippet.span.start ≤ source.byteLength)
    {line start : Nat} {text : List Char} (htext : source.line? line = some text)
    (hstart : source.lineStart? line = some start) :
    (((snippets.map (Snippet.mark source)).filter fun mark => mark.line = line).mapM
        fun mark => mark.underline screen text start) =
      outcome (source.lineFaults screen snippets line)
        ((snippets.filter fun snippet => snippet.line source = line).map
          (Snippet.row screen source)) := by
  rw [List.filter_map, List.mapM_map]
  refine mapM_eq_outcome fun snippet hsnippet => ?_
  obtain ⟨hsnippet, hindex⟩ := List.mem_filter.1 hsnippet
  have hrow := Snippet.underline_mark screen (hinside snippet hsnippet)
  have hindex : snippet.line source = line := of_decide_eq_true hindex
  rw [Snippet.lineText, Snippet.lineStart, hindex, htext, hstart] at hrow
  exact hrow

/-- Lines of the source have their rows, one line after the other. -/
theorem lineRows_eq (screen : Screen)
    (hinside : ∀ snippet ∈ snippets, snippet.span.start ≤ source.byteLength)
    (lines : Span) {count line : Nat} (hlines : line + count ≤ source.lineCount) :
    (ofSnippets source snippets lines).lineRows screen count line =
      outcome ((List.range' line count).flatMap (source.lineFaults screen snippets))
        ((List.range' line count).flatMap (source.lineRows screen snippets)) := by
  induction count generalizing line with
  | zero => rfl
  | succ count ih =>
      obtain ⟨head, text, tail, hline⟩ : ∃ head text tail,
          Text.IsLine source.text.toList line head text tail :=
        Source.exists_isLine_of_lt (by omega)
      have htext := Source.line?_of_isLine hline
      have hstart := Source.lineStart?_of_isLine hline
      have hrest := @ih (line + 1) (by omega)
      rw [ofSnippets] at hrest
      rw [lineRows]
      dsimp only [ofSnippets]
      rw [htext, hstart]
      dsimp only
      rw [mapM_underline screen hinside htext hstart, hrest, List.range'_succ, List.flatMap_cons,
        List.flatMap_cons, Source.lineRows, htext]
      cases source.lineFaults screen snippets line <;>
        cases (List.range' (line + 1) count).flatMap (source.lineFaults screen snippets) <;> rfl

/-- The heading of an excerpt gives the place of its first snippet. -/
def headingOf (source : Source) (snippet : Snippet) : Row :=
  let place := (source.lineColumn? snippet.span.start).getD (1, 1)
  .heading source.name source.path place.1 place.2

/-- An excerpt has its heading, the rows of its lines, and a blank row. -/
theorem rows_eq (screen : Screen)
    (hinside : ∀ snippet ∈ snippets, snippet.span.start ≤ source.byteLength)
    {first : Snippet} (hfirst : snippets.head? = some first) {lines : Span}
    (hstart : lines.start ≤ lines.stop) (hstop : lines.stop ≤ source.lineCount) :
    (ofSnippets source snippets lines).rows screen =
      outcome (lines.positions.flatMap (source.lineFaults screen snippets))
        (headingOf source first ::
          lines.positions.flatMap (source.lineRows screen snippets) ++ [.blank]) := by
  obtain ⟨rest, rfl⟩ := List.head?_eq_some_iff.1 hfirst
  have hheading : (ofSnippets source (first :: rest) lines).heading =
      .ok (headingOf source first) := rfl
  have hshown : (ofSnippets source (first :: rest) lines).lines = lines := rfl
  have hpositions : lines.positions = List.range' lines.start (lines.stop - lines.start) := rfl
  have hrows := lineRows_eq screen hinside lines
    (show lines.start + (lines.stop - lines.start) ≤ source.lineCount by omega)
  rw [← hpositions] at hrows
  rw [rows]
  dsimp only [bind, Except.bind]
  rw [hheading, hshown]
  dsimp only
  rw [hrows]
  cases lines.positions.flatMap (source.lineFaults screen (first :: rest)) <;> rfl

end Excerpt

end TinyC
