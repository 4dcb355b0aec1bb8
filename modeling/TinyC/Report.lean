import TinyC.Span
import TinyC.Syntax.Parser
import TinyC.Token.Lexer

/-!
# Reports

A report tells a programmer about a problem.  It has a severity, possibly a
message, notes, and snippets: stretches of sources with a label.  A source is
known by its number; a report may name sources that do not exist and spans that
lie outside their text.
-/

namespace TinyC

/-- How serious a report is. -/
inductive Severity
  | warning
  | error
  deriving DecidableEq, Repr

/-- The name of a severity. -/
def Severity.name : Severity → String
  | .warning => "Warning"
  | .error => "Error"

/-- The part that a snippet plays in its report. -/
inductive Snippet.Role
  | primary
  | secondary
  deriving DecidableEq, Repr

/-- The name of a role. -/
def Snippet.Role.name : Snippet.Role → String
  | .primary => "Primary"
  | .secondary => "Secondary"

/-- A labelled stretch of a source. -/
structure Snippet where
  label : String
  role : Snippet.Role
  source : Nat
  span : Span
  deriving DecidableEq, Repr

/-- What a programmer is told about one problem. -/
structure Report where
  severity : Severity
  message : Option String
  snippets : List Snippet
  notes : List String
  deriving DecidableEq, Repr

namespace Report

/-- The report of an unexpected character. -/
def ofLexError (source : Nat) (error : LexError) : Report where
  severity := .error
  message := some error.reason
  snippets := [⟨"this character", .primary, source, error.span⟩]
  notes := ["at byte offset " ++ Numeral.ofNat error.offset]

/-- The label of a token that does not fit. -/
def labelOf : Token.Kind → String
  | .endOfInput => "reached end of input"
  | kind => "found " ++ kind.description

/-- The report of an unmet expectation. -/
def ofSyntaxError (source : Nat) (error : SyntaxError) : Report where
  severity := .error
  message := some ("expected " ++ error.expected.text)
  snippets := [⟨labelOf error.found.kind, .primary, source, error.found.span⟩]
  notes := ["found " ++ error.found.summary]

/-- The report of a program that does not start anywhere. -/
def ofMissingMain (sourceName : String) : Report where
  severity := .warning
  message := some ("`" ++ sourceName ++ "` has no `main` function")
  snippets := []
  notes := ["the generated program will do nothing when run"]

end Report

end TinyC
