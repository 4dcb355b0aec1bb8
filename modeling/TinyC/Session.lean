import TinyC.Report.Rendering
import TinyC.Script.Compilation
import TinyC.Syntax.Printer

/-!
# Sessions

A session holds the sources that were handed to it, in order, and the reports
it has made.  A source is known by its number.  Every step gives a result and
the session after it, or refuses: because the number was never handed out, or
because the source has errors, which have then been reported.
-/

namespace TinyC

/-- Why a step of a session has no result. -/
inductive Refusal
  | unknownSource
  | hadErrors
  deriving DecidableEq, Repr

/-- The message of a refusal. -/
def Refusal.message : Refusal → String
  | .unknownSource => "unknown source"
  | .hadErrors => "errors while compiling"

/-- Sources, and the reports made so far. -/
structure Session where
  sources : List Source
  reports : List Report

namespace Session

/-- A session without sources and reports. -/
def empty : Session := ⟨[], []⟩

/-- The session with one more source, and the number of that source. -/
def addSource (session : Session) (source : Source) : Nat × Session :=
  (session.sources.length, { session with sources := session.sources ++ [source] })

/-- Makes a report, and refuses to go on after an error. -/
def make (session : Session) (report : Report) : Except Refusal Unit × Session :=
  (if report.severity = .error then .error .hadErrors else .ok (),
    { session with reports := session.reports ++ [report] })

/-- The tokens of a source, and the session after an error in them was reported. -/
def tokens (session : Session) (id : Nat) : Except Refusal (List Token) × Session :=
  match session.sources[id]? with
  | none => (.error .unknownSource, session)
  | some source =>
      match Token.lex source.text with
      | .ok tokens => (.ok tokens, session)
      | .error error => (.error .hadErrors, (session.make (.ofLexError id error)).2)

/-- The program in a source, and the session after an error in it was reported. -/
def program (session : Session) (id : Nat) : Except Refusal Program × Session :=
  match session.tokens id with
  | (.error refusal, session) => (.error refusal, session)
  | (.ok tokens, session) =>
      match Program.ofTokens tokens with
      | .ok program => (.ok program, session)
      | .error error => (.error .hadErrors, (session.make (.ofSyntaxError id error)).2)

/-- A warning of a program that does not start anywhere. -/
def warnOfMissingMain (session : Session) (id : Nat) (program : Program) :
    Except Refusal Unit × Session :=
  if program.hasMain then (.ok (), session)
  else
    match session.sources[id]? with
    | none => (.error .unknownSource, session)
    | some source => session.make (.ofMissingMain source.name)

/-- The script to which a source compiles, and the session after the reports about it. -/
def script (session : Session) (id : Nat) : Except Refusal Script × Session :=
  match session.program id with
  | (.error refusal, session) => (.error refusal, session)
  | (.ok program, session) =>
      match session.warnOfMissingMain id program with
      | (.error refusal, session) => (.error refusal, session)
      | (.ok (), session) => (.ok (.ofProgram program), session)

/-- Making a report keeps the sources. -/
theorem sources_make (session : Session) (report : Report) :
    (session.make report).2.sources = session.sources := rfl

/-- A report is the last one once it is made. -/
theorem reports_make (session : Session) (report : Report) :
    (session.make report).2.reports = session.reports ++ [report] := rfl

end Session

/-! ## Texts by themselves -/

/-- Why a text is not a program. -/
inductive SourceError
  | lex (error : LexError)
  | grammar (error : SyntaxError)
  deriving DecidableEq, Repr

/-- The report of an error in a source. -/
def SourceError.report (source : Nat) : SourceError → Report
  | .lex error => .ofLexError source error
  | .grammar error => .ofSyntaxError source error

/-- The program that a text forms. -/
def Program.ofText (text : String) : Except SourceError Program :=
  match Token.lex text with
  | .error error => .error (.lex error)
  | .ok tokens =>
      match Program.ofTokens tokens with
      | .error error => .error (.grammar error)
      | .ok program => .ok program

end TinyC
