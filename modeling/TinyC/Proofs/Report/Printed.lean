import TinyC.Proofs.Numeral
import TinyC.Proofs.Report.Segments
import TinyC.Proofs.Report.Views
import TinyC.Report.Rendering

/-!
# Reports in print

Without colour a report is the texts of its segments.  Here they are written down
as lines of text: the first line of a report, each kind of row, the rows of a view,
and the notes.  Nothing of this refers to segments, so it says what is printed
independently of how that comes about.
-/

namespace TinyC

/-! ## Rows -/

namespace Row

/-- A row as it is printed without colour. -/
def printed (theme : Theme) (severity : Severity) (fieldWidth : Nat) (row : Row) : String :=
  Segment.write false (row.segments theme severity fieldWidth)

/-- What is printed before the text of a row: a field, and the gutter between blanks. -/
def margin (theme : Theme) (field : String) : String := field ++ " " ++ theme.gutter ++ " "

/-- A line and a column as they follow the name of a source. -/
def place (line column : Nat) : String := ":" ++ toString line ++ ":" ++ toString column

/-- The line of text that a row is. -/
def text (theme : Theme) (fieldWidth : Nat) : Row → String
  | .heading name path number column =>
      let file := path.elim "" fun path => " (" ++ path ++ place number column ++ ")"
      "In " ++ name ++ place number column ++ file ++ "\n"
  | .line number characters =>
      let blanks := fieldWidth - (toString number).length
      margin theme (spaces blanks ++ toString number) ++ String.ofList (shown characters) ++ "\n"
  | .underline _ offset count label =>
      margin theme (spaces fieldWidth) ++ spaces offset ++ repeated theme.underline count ++
        theme.afterUnderline ++ label ++ "\n"
  | .blank => "\n"

theorem aligned_eq (fieldWidth number : Nat) :
    aligned fieldWidth number =
      spaces (fieldWidth - (Numeral.ofNat number).length) ++ Numeral.ofNat number := by
  rw [Numeral.ofNat, String.length_ofList]
  rfl

theorem printed_eq_text (theme : Theme) (severity : Severity) (fieldWidth : Nat) (row : Row) :
    row.printed theme severity fieldWidth = row.text theme fieldWidth := by
  cases row with
  | heading name path line column =>
      cases path <;>
        simp [printed, segments, text, Segment.write, Segment.styled, place,
          Numeral.ofNat_eq_toString, String.append_assoc]
  | line number characters =>
      simp [printed, segments, text, Segment.write, gutter, Segment.styled, Segment.plain,
        margin, aligned_eq, Numeral.ofNat_eq_toString, String.append_assoc]
  | underline role offset count label =>
      simp [printed, segments, text, Segment.write, gutter, Segment.styled, margin,
        String.append_assoc]
  | blank => rfl

/-- Every row ends its line. -/
theorem exists_printed_eq (theme : Theme) (severity : Severity) (fieldWidth : Nat) (row : Row) :
    ∃ front, row.printed theme severity fieldWidth = front ++ "\n" := by
  rw [printed_eq_text]
  cases row with
  | blank => exact ⟨"", rfl⟩
  | _ => exact ⟨_, rfl⟩

/-- Rows one after the other are printed row by row. -/
theorem write_flatMap (theme : Theme) (severity : Severity) (fieldWidth : Nat) (rows : List Row) :
    Segment.write false (rows.flatMap (segments theme severity fieldWidth)) =
      String.join (rows.map (printed theme severity fieldWidth)) :=
  Segment.write_flatMap false _ rows

end Row

/-! ## Views -/

/-- The field of an excerpt is made for the number of the last line. -/
theorem Excerpt.fieldWidth_ofSnippets (source : Source) (snippets : List Snippet) {lines : Span}
    (hstop : 0 < lines.stop) :
    (ofSnippets source snippets lines).fieldWidth = (Numeral.ofNat lines.stop).length := by
  rw [Numeral.length_ofNat, fieldWidth, ofSnippets, Nat.max_eq_left hstop]

namespace View

/-- The lines of text that a view is.  In each stretch of it the field is as wide as the number of
the last line. -/
def text (screen : Screen) (theme : Theme) (view : View) : String :=
  String.join (view.stretches.map fun stretch =>
    String.join ((view.rows screen stretch).map
      (Row.text theme (toString stretch.span.stop).length)))

theorem write_segments (screen : Screen) (severity : Severity) {theme : Theme}
    {sources : List Source} {report : Report} {view : View}
    (hview : view.IsOf theme sources report) :
    Segment.write false (view.segments screen theme severity) = view.text screen theme := by
  have hstretches : ∀ stretch ∈ view.stretches,
      Segment.write false ((view.rows screen stretch).flatMap (Row.segments theme severity
        (Excerpt.ofSnippets view.source stretch.items stretch.span).fieldWidth)) =
      String.join ((view.rows screen stretch).map
        (Row.text theme (toString stretch.span.stop).length)) := by
    intro stretch hstretch
    rw [Row.write_flatMap, Excerpt.fieldWidth_ofSnippets _ _ (hview.stop_pos hstretch),
      Numeral.ofNat_eq_toString]
    exact congrArg String.join (List.map_congr_left fun row _ => Row.printed_eq_text ..)
  rw [segments, Segment.write_flatMap, text, List.map_congr_left hstretches]

end View

/-! ## Reports -/

namespace Report

/-- The first line of a report as text. -/
def firstLine (report : Report) : String :=
  report.severity.name ++ ":" ++ (report.message.elim "" fun message => " " ++ message) ++ "\n"

/-- The notes of a report as lines of text. -/
def noteLines (theme : Theme) (report : Report) : String :=
  String.join (report.notes.map fun note => theme.beforeNote ++ " " ++ note ++ "\n")

theorem write_header (theme : Theme) (report : Report) :
    Segment.write false (report.header theme) = report.firstLine := by
  obtain ⟨severity, message, snippets, notes⟩ := report
  cases message <;>
    simp [header, firstLine, Segment.write, Segment.styled, Segment.plain, String.append_assoc]

theorem write_noteSegments (theme : Theme) (report : Report) :
    Segment.write false (report.noteSegments theme) = report.noteLines theme := by
  rw [noteSegments, noteLines, Segment.write_flatMap]
  simp [Segment.write, Segment.styled, Segment.plain, String.append_assoc]

/-- A report is printed as its first line, its views and its notes. -/
theorem write_segments (screen : Screen) (theme : Theme) (sources : List Source)
    (report : Report) :
    Segment.write false (report.header theme ++
        (report.views theme sources).flatMap (View.segments screen theme report.severity) ++
          report.noteSegments theme) =
      report.firstLine ++ String.join ((report.views theme sources).map (View.text screen theme)) ++
        report.noteLines theme := by
  have hviews : ∀ view ∈ report.views theme sources,
      Segment.write false (view.segments screen theme report.severity) = view.text screen theme :=
    fun view hview => View.write_segments screen report.severity (View.isOf_of_mem hview)
  rw [Segment.write_append, Segment.write_append, write_header, Segment.write_flatMap,
    List.map_congr_left hviews, write_noteSegments]

end Report

end TinyC
