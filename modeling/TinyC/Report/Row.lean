import TinyC.Report.Screen
import TinyC.Report.Theme

/-!
# Rows of an excerpt

An excerpt of a source is shown as rows: a heading, lines of the source with
their numbers, and signs under stretches of them.  Line numbers stand at the
right end of a field before the gutter; rows without a number leave the field
blank, so that the gutters stand below each other.

A tab is shown as four spaces.  Where marks are placed it counts for one column
more than that, its own and those of the spaces.
-/

namespace TinyC

/-- A row of a report on the screen. -/
inductive Row
  /-- The place to which an excerpt belongs. -/
  | heading (name : String) (path : Option String) (line column : Nat)
  /-- A line of the source with its number. -/
  | line (number : Nat) (text : List Char)
  /-- Signs under a stretch of the line above. -/
  | underline (role : Snippet.Role) (offset width : Nat) (label : String)
  | blank
  deriving DecidableEq, Repr

namespace Row

/-- What a tab is shown as. -/
def tab : List Char := [' ', ' ', ' ', ' ']

/-- A line of the source as it is shown. -/
def shown (text : List Char) : List Char :=
  text.flatMap fun c => if c = '\t' then tab else [c]

/-- The columns that a text counts for when marks are placed. -/
def columns (screen : Screen) (text : List Char) : Nat :=
  screen.width text + (text.filter (· = '\t')).length * tab.length

/-- The given number of spaces. -/
def spaces (count : Nat) : String := String.ofList (List.replicate count ' ')

/-- A text repeated without separation. -/
def repeated (text : String) (count : Nat) : String := String.join (List.replicate count text)

/-- A number at the right end of a field. -/
def aligned (fieldWidth number : Nat) : String :=
  let digits := Numeral.digits 10 number
  spaces (fieldWidth - digits.length) ++ String.ofList digits

/-- What stands before the text of a row. -/
def gutter (theme : Theme) (field : String) : Segment :=
  .styled theme.subtle (field ++ " " ++ theme.gutter ++ " ")

/-- The segments of a row, whose line numbers are aligned in a field of the given width. -/
def segments (theme : Theme) (severity : Severity) (fieldWidth : Nat) : Row → List Segment
  | .heading name path lineNumber column =>
      let place := ":" ++ Numeral.ofNat lineNumber ++ ":" ++ Numeral.ofNat column
      -- The line feed is styled with the heading.
      let file := (path.map fun path => " (" ++ path ++ place ++ ")").getD ""
      [.styled theme.subtle ("In " ++ name ++ place ++ file ++ "\n")]
  | .line number text =>
      [gutter theme (aligned fieldWidth number), .plain (String.ofList (shown text) ++ "\n")]
  | .underline role offset width label =>
      [gutter theme (spaces fieldWidth),
        .styled (theme.role severity role)
          (spaces offset ++ repeated theme.underline width ++ theme.afterUnderline ++ label ++
            "\n")]
  | .blank => [.plain "\n"]

end Row

end TinyC
