import TinyC.Report.Excerpt

/-!
# Reports on a terminal

A report is shown as a header, the excerpts around its snippets, source by
source, and its notes.
-/

namespace TinyC.Report

/-- The first line of a report. -/
def header (theme : Theme) (report : Report) : List Segment :=
  [.styled (theme.severity report.severity) (report.severity.name ++ ":"),
    .plain (((report.message.map fun message => " " ++ message).getD "") ++ "\n")]

/-- The excerpts of a report. -/
def excerpts (theme : Theme) (sources : List Source) (report : Report) : List Excerpt :=
  (Marked.ofSnippets sources report.snippets).flatMap (Excerpt.ofMarks theme.contextLines)

/-- The notes of a report, on lines of their own. -/
def noteSegments (theme : Theme) (report : Report) : List Segment :=
  report.notes.flatMap fun note =>
    [.styled theme.emphasis theme.beforeNote, .plain (" " ++ note ++ "\n")]

/-- The segments of a report. -/
def segments (screen : Screen) (theme : Theme) (sources : List Source) (report : Report) :
    Except Fault (List Segment) := do
  let excerpts ←
    (report.excerpts theme sources).mapM (Excerpt.segments screen theme report.severity)
  return report.header theme ++ excerpts.flatten ++ report.noteSegments theme

/-- A report as it is shown on a screen, with or without colour. -/
def renderOn (screen : Screen) (theme : Theme) (sources : List Source) (color : Bool)
    (report : Report) : Except Fault String := do
  let segments ← report.segments screen theme sources
  return Segment.write color segments

/-- A report as it is shown, with or without colour. -/
def render (theme : Theme) (sources : List Source) (color : Bool) (report : Report) :
    Except Fault String :=
  report.renderOn .standard theme sources color

end TinyC.Report
