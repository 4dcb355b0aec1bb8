import TinyC.Report
import TinyC.Text.Quoted

/-!
# Reports as data

The form in which the parts of a report are shown to whoever works on the
program itself: every field with its name, either on one line or, indented, on
lines of their own.
-/

namespace TinyC

/-- A value as a tree of its parts. -/
inductive Form
  | leaf (text : String)
  /-- A value inside a named one. -/
  | wrapped (name : String) (inner : Form)
  | list (items : List Form)
  | record (name : String) (fields : List (String × Form))

namespace Form

mutual

/-- A value on one line. -/
def inline : Form → String
  | .leaf text => text
  | .wrapped name inner => name ++ "(" ++ inner.inline ++ ")"
  | .list items => "[" ++ ", ".intercalate (inlineItems items) ++ "]"
  | .record name fields =>
      name ++ " \x7b " ++ ", ".intercalate (inlineFields fields) ++ " \x7d"

/-- The items of a list, each on one line. -/
def inlineItems : List Form → List String
  | [] => []
  | item :: rest => item.inline :: inlineItems rest

/-- The fields of a record, each on one line. -/
def inlineFields : List (String × Form) → List String
  | [] => []
  | (name, value) :: rest => (name ++ ": " ++ value.inline) :: inlineFields rest

end

/-- Lines inside brackets: indented, with a comma after the last. -/
def nested (lines : List String) : List String :=
  (lines.dropLast ++ (lines.getLast?.map (· ++ ",")).toList).map ("    " ++ ·)

/-- Lines with a name before the first. -/
def named (name : String) : List String → List String
  | [] => [name]
  | first :: rest => (name ++ first) :: rest

mutual

/-- A value with every part on a line of its own. -/
def lines : Form → List String
  | .leaf text => [text]
  | .wrapped name inner => [name ++ "("] ++ nested inner.lines ++ [")"]
  | .list [] => ["[]"]
  | .list (item :: rest) => ["["] ++ itemLines (item :: rest) ++ ["]"]
  | .record name fields => [name ++ " \x7b"] ++ fieldLines fields ++ ["\x7d"]

/-- The lines of the items of a list. -/
def itemLines : List Form → List String
  | [] => []
  | item :: rest => nested item.lines ++ itemLines rest

/-- The lines of the fields of a record. -/
def fieldLines : List (String × Form) → List String
  | [] => []
  | (name, value) :: rest => nested (named (name ++ ": ") value.lines) ++ fieldLines rest

end

/-- A value on as many lines as it has parts. -/
def indented (form : Form) : String := "\n".intercalate form.lines

end Form

/-- The parts of a span. -/
def Span.form (span : Span) : Form :=
  .record "Span" [("start", .leaf (Numeral.ofNat span.start)), ("end", .leaf (Numeral.ofNat span.stop))]

/-- The parts of a snippet. -/
def Snippet.form (snippet : Snippet) : Form :=
  .record "Snippet"
    [("label", .leaf (Quoted.text snippet.label)), ("kind", .leaf snippet.role.name),
      ("source_id", .leaf (Numeral.ofNat snippet.source)), ("span", snippet.span.form)]

/-- The parts of a report. -/
def Report.form (report : Report) : Form :=
  .record "Diagnostic"
    [("kind", .leaf report.severity.name),
      ("message",
        match report.message with
        | none => .leaf "None"
        | some message => .wrapped "Some" (.leaf (Quoted.text message))),
      ("snippets", .list (report.snippets.map Snippet.form)),
      ("notes", .list (report.notes.map fun note => .leaf (Quoted.text note)))]

end TinyC
