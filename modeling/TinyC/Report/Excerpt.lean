import TinyC.Report.Row
import TinyC.Report.Windows
import TinyC.Source

/-!
# Excerpts of sources

The snippets of a report that lie in an existing source become marks on its
lines.  Marks of one source whose windows of lines overlap or touch share an
excerpt, which shows these lines and a row under them for every mark.

A mark whose bounds lie inside a character cannot be placed under its line, and
neither can one that starts too far to the right.  `Fault` names this and the
other conditions on which the steps rely.
-/

namespace TinyC

/-! ## Marks -/

/-- Why a report cannot be shown. -/
inductive Fault
  /-- An excerpt shows no mark. -/
  | nothingMarked
  /-- A mark starts before its line. -/
  | beforeLine
  /-- A mark starts beyond the end of its line. -/
  | beyondLine
  /-- A mark starts or ends inside a character. -/
  | insideCharacter
  /-- A mark starts further to the right than a field can be wide. -/
  | beyondField
  deriving DecidableEq, Repr

/-- A snippet that starts inside its source, with the line on which it starts. -/
structure Mark where
  label : String
  role : Snippet.Role
  span : Span
  line : Nat
  deriving DecidableEq, Repr

/-- The mark of a snippet in its source, unless it starts beyond the text. -/
def Snippet.mark? (snippet : Snippet) (source : Source) : Option Mark :=
  (source.lineIndex? snippet.span.start).map fun line =>
    ⟨snippet.label, snippet.role, snippet.span, line⟩

/-- A source with the marks in it. -/
structure Marked where
  id : Nat
  source : Source
  marks : List Mark

namespace Marked

/-- Adds a mark to its source, which comes last if it has none so far. -/
def add (id : Nat) (source : Source) (mark : Mark) : List Marked → List Marked
  | [] => [⟨id, source, [mark]⟩]
  | marked :: rest =>
      if marked.id = id then { marked with marks := marked.marks ++ [mark] } :: rest
      else marked :: add id source mark rest

/-- The sources in the order of their first marks. -/
def ofSnippets (sources : List Source) (snippets : List Snippet) : List Marked :=
  snippets.foldl (fun marked snippet =>
    match sources[snippet.source]? with
    | none => marked
    | some source =>
        match snippet.mark? source with
        | none => marked
        | some mark => add snippet.source source mark marked) []

end Marked

/-! ## Underlines -/

/-- The row under a line that shows a mark. -/
def Mark.underline (screen : Screen) (mark : Mark) (text : List Char) (lineStart : Nat) :
    Except Fault Row := do
  if mark.span.start < lineStart then throw .beforeLine
  let length := Text.byteLength text
  let start := min (mark.span.start - lineStart) length
  if length < start then throw .beyondLine
  let stop := max start (min (mark.span.stop - lineStart) length)
  match Text.splitAtByte? start text with
  | none => throw .insideCharacter
  | some (before, fromStart) =>
      match Text.splitAtByte? (stop - start) fromStart with
      | none => throw .insideCharacter
      | some (marked, _) =>
          let offset := Row.columns screen before
          if !screen.hasField offset then throw .beyondField
          return .underline mark.role offset (max (Row.columns screen marked) 1) mark.label

/-! ## Excerpts -/

/-- Consecutive lines of a source with the marks on them. -/
structure Excerpt where
  source : Source
  marks : List Mark
  lines : Span

namespace Excerpt

/-- The lines around a mark that belong to its excerpt. -/
def window (contextLines lineCount : Nat) (mark : Mark) : Span :=
  ⟨mark.line - contextLines, min (mark.line + 1 + contextLines) lineCount⟩

/-- The excerpts that show the marks of a source. -/
def ofMarks (contextLines : Nat) (marked : Marked) : List Excerpt :=
  (Group.ofItems (window contextLines marked.source.lineCount) marked.marks).map fun group =>
    ⟨marked.source, group.items, group.span⟩

/-- The width of the field for line numbers. -/
def fieldWidth (excerpt : Excerpt) : Nat := 1 + Numeral.magnitude (max excerpt.lines.stop 1)

/-- The heading, which gives the place of the first mark. -/
def heading (excerpt : Excerpt) : Except Fault Row :=
  match excerpt.marks with
  | [] => throw .nothingMarked
  | mark :: _ =>
      let (line, column) := (excerpt.source.lineColumn? mark.span.start).getD (1, 1)
      return .heading excerpt.source.name excerpt.source.path line column

/-- The rows of the given number of lines, each line followed by the marks that start on it. -/
def lineRows (screen : Screen) (excerpt : Excerpt) :
    (count line : Nat) → Except Fault (List Row)
  | 0, _ => return []
  | count + 1, line =>
      match excerpt.source.line? line, excerpt.source.lineStart? line with
      | some text, some start => do
          let marks := excerpt.marks.filter fun mark => mark.line = line
          let underlines ← marks.mapM fun mark => mark.underline screen text start
          let rest ← excerpt.lineRows screen count (line + 1)
          return .line (line + 1) text :: underlines ++ rest
      | _, _ => return []

/-- The rows of an excerpt. -/
def rows (screen : Screen) (excerpt : Excerpt) : Except Fault (List Row) := do
  let heading ← excerpt.heading
  let count := excerpt.lines.stop - excerpt.lines.start
  let lines ← excerpt.lineRows screen count excerpt.lines.start
  return heading :: lines ++ [.blank]

/-- The segments of an excerpt. -/
def segments (screen : Screen) (theme : Theme) (severity : Severity) (excerpt : Excerpt) :
    Except Fault (List Segment) := do
  let rows ← excerpt.rows screen
  return rows.flatMap (Row.segments theme severity excerpt.fieldWidth)

end Excerpt

end TinyC
