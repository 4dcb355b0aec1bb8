import TinyC.Report
import TinyC.Report.Style

/-!
# Themes

The styles and signs with which reports are shown, and which of the styles
belongs to which part of a report.
-/

namespace TinyC

/-- The styles and signs with which reports are shown. -/
structure Theme where
  /-- The number of lines shown above and below each snippet. -/
  contextLines : Nat := 1
  error : Style := { bold := true, color := some (.named .red) }
  warning : Style := { bold := true, color := some (.named .yellow) }
  emphasis : Style := { bold := true }
  subtle : Style := { dimmed := true, italic := true }
  gutter : String := "│"
  underline : String := "^"
  afterUnderline : String := " "
  beforeNote : String := "= note:"
  deriving Repr

namespace Theme

/-- The style of a severity. -/
def severity (theme : Theme) : Severity → Style
  | .warning => theme.warning
  | .error => theme.error

/-- The style of a snippet in a report of the given severity. -/
def role (theme : Theme) (severity : Severity) : Snippet.Role → Style
  | .primary => theme.severity severity
  | .secondary => theme.emphasis

end Theme

end TinyC
