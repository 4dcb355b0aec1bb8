import TinyC.CommandLine.Arguments
import TinyC.CommandLine.Execution
import TinyC.CommandLine.FileSystem
import TinyC.CommandLine.Interpreter
import TinyC.CommandLine.Invocation
import TinyC.CommandLine.Path
import TinyC.CommandLine.System
import TinyC.Number.Decimal
import TinyC.Number.Ratio
import TinyC.Proofs.Collected
import TinyC.Proofs.CommandLine.Agreement
import TinyC.Proofs.CommandLine.Compiling
import TinyC.Proofs.CommandLine.Execution
import TinyC.Proofs.CommandLine.FileSystem
import TinyC.Proofs.CommandLine.Saving
import TinyC.Proofs.CommandLine.TokenList
import TinyC.Proofs.ConstructorForm
import TinyC.Proofs.Grammar
import TinyC.Proofs.Grammar.Acceptance
import TinyC.Proofs.Grammar.Completeness
import TinyC.Proofs.Grammar.Cursor
import TinyC.Proofs.Grammar.CursorBounds
import TinyC.Proofs.Grammar.CursorCalls
import TinyC.Proofs.Grammar.CursorReading
import TinyC.Proofs.Grammar.EndOfInput
import TinyC.Proofs.Grammar.Lexemes
import TinyC.Proofs.Grammar.Locality
import TinyC.Proofs.Grammar.Numbers
import TinyC.Proofs.Grammar.Reading
import TinyC.Proofs.Grammar.Relocation
import TinyC.Proofs.Grammar.Soundness
import TinyC.Proofs.Grammar.ViablePrefix
import TinyC.Proofs.Lexical
import TinyC.Proofs.Lexical.Composition
import TinyC.Proofs.Lexical.Dump
import TinyC.Proofs.Lexical.Pieces
import TinyC.Proofs.Lexical.Splitting
import TinyC.Proofs.NormalForm
import TinyC.Proofs.Numeral
import TinyC.Proofs.Relocation
import TinyC.Proofs.Report.Colors
import TinyC.Proofs.Report.Columns
import TinyC.Proofs.Report.Errors
import TinyC.Proofs.Report.Faults
import TinyC.Proofs.Report.Gutters
import TinyC.Proofs.Report.Marks
import TinyC.Proofs.Report.Names
import TinyC.Proofs.Report.Order
import TinyC.Proofs.Report.Partition
import TinyC.Proofs.Report.Printed
import TinyC.Proofs.Report.Rendering
import TinyC.Proofs.Report.Rows
import TinyC.Proofs.Report.Segments
import TinyC.Proofs.Report.Terminal
import TinyC.Proofs.Report.Views
import TinyC.Proofs.Report.Windows
import TinyC.Proofs.Script.Acceptance
import TinyC.Proofs.Script.Brackets
import TinyC.Proofs.Script.Expressions
import TinyC.Proofs.Script.FirstLines
import TinyC.Proofs.Script.Functions
import TinyC.Proofs.Script.Lines
import TinyC.Proofs.Script.Literals
import TinyC.Proofs.Script.Meaning
import TinyC.Proofs.Script.Numbers
import TinyC.Proofs.Script.Origins
import TinyC.Proofs.Script.Renaming
import TinyC.Proofs.Script.Scoping
import TinyC.Proofs.Script.Words
import TinyC.Proofs.ScriptLanguage.Brackets
import TinyC.Proofs.ScriptLanguage.Execution
import TinyC.Proofs.ScriptLanguage.Grammar
import TinyC.Proofs.ScriptLanguage.Line
import TinyC.Proofs.ScriptLanguage.Module
import TinyC.Proofs.ScriptLanguage.Strings
import TinyC.Proofs.ScriptLanguage.Unambiguity
import TinyC.Proofs.ScriptLanguage.Word
import TinyC.Proofs.Session
import TinyC.Proofs.Session.Stages
import TinyC.Proofs.Source
import TinyC.Proofs.Source.Coordinates
import TinyC.Proofs.SourceText
import TinyC.Proofs.SourceText.Beginnings
import TinyC.Proofs.SourceText.Derivation
import TinyC.Proofs.SourceText.Errors
import TinyC.Proofs.SourceText.Joining
import TinyC.Proofs.SourceText.Layout
import TinyC.Proofs.SourceText.Names
import TinyC.Proofs.SourceText.RoundTrip
import TinyC.Proofs.StraightLine
import TinyC.Proofs.Text.Bytes
import TinyC.Proofs.Text.Delimited
import TinyC.Proofs.Text.Width
import TinyC.Report
import TinyC.Report.Excerpt
import TinyC.Report.Inspection
import TinyC.Report.Rendering
import TinyC.Report.Row
import TinyC.Report.Screen
import TinyC.Report.Style
import TinyC.Report.Theme
import TinyC.Report.Windows
import TinyC.Script
import TinyC.Script.Acceptance
import TinyC.Script.Arrangement
import TinyC.Script.Builtin
import TinyC.Script.Compilation
import TinyC.Script.Evaluation
import TinyC.Script.Format
import TinyC.Script.Iteration
import TinyC.Script.Kind
import TinyC.Script.Literal
import TinyC.Script.Machine
import TinyC.Script.Making
import TinyC.Script.Name
import TinyC.Script.Number
import TinyC.Script.Reading
import TinyC.Script.Rope
import TinyC.Script.Specification
import TinyC.Script.Value
import TinyC.Script.Value.Arithmetic
import TinyC.Script.Value.Comparison
import TinyC.Script.Value.Text
import TinyC.Session
import TinyC.Source
import TinyC.Span
import TinyC.Syntax
import TinyC.Syntax.Expectation
import TinyC.Syntax.Parser
import TinyC.Syntax.Parser.Expr
import TinyC.Syntax.Parser.Rule
import TinyC.Syntax.Printer
import TinyC.Text.Bytes
import TinyC.Text.Cursor
import TinyC.Text.Numeral
import TinyC.Text.Quoted
import TinyC.Text.Width
import TinyC.Token
import TinyC.Token.Lexer
import TinyC.Token.Piece
import TinyC.Unicode.Alphabetic
import TinyC.Unicode.Assigned
import TinyC.Unicode.CombiningClass
import TinyC.Unicode.Decomposition
import TinyC.Unicode.Digit
import TinyC.Unicode.Emoji
import TinyC.Unicode.Identifier
import TinyC.Unicode.NormalForm
import TinyC.Unicode.Printable
import TinyC.Unicode.Ranges
import TinyC.Unicode.Width
import TinyC.Main
