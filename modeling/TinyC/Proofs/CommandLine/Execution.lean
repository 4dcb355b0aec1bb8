import TinyC.CommandLine.Execution
import TinyC.Proofs.Report.Names
import TinyC.Proofs.Session.Stages

/-!
# Outcomes of invocations

An invocation has one outcome for each way that it can go: the program cannot be
read, it has an error that the command comes upon, or the command gets what it
asked the session for.  The error is printed as its report and a last line, with
nothing written; else the outcome is that of printing, saving or running.

## Strategy

A command works on a session with one source, whose answers are known.  What was
reported is rendered when the command has ended, so an outcome exists if these
reports can be shown.
-/

namespace TinyC

/-- The question that a command asks about its source. -/
def Command.question : Command → Session.Question
  | .tokens => .tokens
  | .parse => .program
  | .compile _ | .run _ => .script

/-- What a command prints before it asks. -/
def Command.announcement (input : Input) : Command → String
  | .compile path => "compiling " ++ input.name ++ " to " ++ path ++ "...\n"
  | _ => ""

namespace Invocation

variable {settings : Settings} {files : FileSystem} {input : Input} {coloring : Coloring}
  {command : Command} {source : Source} {text : String} {program : Program} {color : Bool}
  {reports : List String}

/-! ## Outcomes -/

/-- A command that has not printed anything, and works on one source. -/
def start (files : FileSystem) (source : Source) : Progress := ⟨.holding source, files, "", ""⟩

/-- The outcome when a command has ended. -/
def conclude (color : Bool) : Ending × Progress → Except Fault Outcome
  | (ending, progress) => do
      let reports ← progress.session.reports.mapM (Report.render {} progress.session.sources color)
      let errors := String.join reports ++ progress.errors
      match ending with
      | .ok exitCode => return ⟨exitCode, progress.output, errors, progress.files⟩
      | .error error =>
          return ⟨1, progress.output, errors ++ error.message ++ "\n", progress.files⟩

theorem execute_of_unreadable {error : FileError} (hread : readInput files input = .error error) :
    execute ⟨command, input, coloring⟩ settings files =
      .ok ⟨1, "", error.message ++ "\n", files⟩ := by
  rw [execute]
  dsimp only
  rw [hread]
  rfl

theorem execute_of_readable (hread : readInput files input = .ok text) :
    execute ⟨command, input, coloring⟩ settings files =
      conclude (settings.colored coloring)
        (carryOut command input 0 (start files (.ofText input.name text))) := by
  rw [execute]
  dsimp only
  rw [hread]
  rfl

theorem conclude_of_shown (ending : Ending) (progress : Progress)
    (hreports : progress.session.reports.mapM
      (Report.render {} progress.session.sources color) = .ok reports) :
    conclude color (ending, progress) =
      .ok (match ending with
        | .ok exitCode =>
            ⟨exitCode, progress.output, String.join reports ++ progress.errors, progress.files⟩
        | .error error =>
            ⟨1, progress.output, String.join reports ++ progress.errors ++ error.message ++ "\n",
              progress.files⟩) := by
  rw [conclude, hreports]
  cases ending <;> rfl

/-- A command that ends with an error has the exit code of a failure. -/
theorem exitCode_of_error {error : CommandError} {progress : Progress} {outcome : Outcome}
    (hconclude : conclude color (.error error, progress) = .ok outcome) : outcome.exitCode = 1 := by
  cases hreports : progress.session.reports.mapM
      (Report.render {} progress.session.sources color) with
  | error fault => simp [conclude, hreports, bind, Except.bind] at hconclude
  | ok reports =>
      rw [conclude_of_shown _ _ hreports] at hconclude
      obtain rfl := Except.ok.inj hconclude
      rfl

/-! ## Errors -/

/-- A command that comes upon an error ends there. -/
theorem carryOut_of_error {error : SourceError}
    (herror : Program.ofText source.text = .error error) (hcomes : command.question.ComesUpon error) :
    carryOut command input 0 (start files source) =
      (.error (.refused .hadErrors),
        ⟨(Session.holding source).reporting [error.report 0], files,
          command.announcement input, ""⟩) := by
  have hsource : (Session.holding source).sources[0]? = some source := rfl
  have hscript := Session.script_of_source hsource
  rw [herror] at hscript
  cases command with
  | tokens =>
      cases error with
      | grammar unmet => exact hcomes.elim
      | lex unexpected =>
          have htokens := Session.tokens_of_source hsource
          rw [Session.lex_of_ofText_error herror] at htokens
          rw [carryOut, printTokens, step, start, htokens]
          rfl
  | parse =>
      have hprogram := Session.program_of_source hsource
      rw [herror] at hprogram
      rw [carryOut, printProgram, step, start, hprogram]
      rfl
  | compile path =>
      rw [carryOut, saveScript, step, start, Progress.print, hscript]
      rfl
  | run interpreter =>
      rw [carryOut, runScript, step, start, hscript]
      rfl

/-- Whether it can be shown or not, an error that a command comes upon is no good end. -/
theorem exitCode_of_comesUpon {error : SourceError} {outcome : Outcome}
    (hread : readInput files input = .ok text) (herror : Program.ofText text = .error error)
    (hcomes : command.question.ComesUpon error)
    (houtcome : execute ⟨command, input, coloring⟩ settings files = .ok outcome) :
    outcome.exitCode = 1 := by
  have hsource : Program.ofText (Source.ofText input.name text).text = .error error := herror
  rw [execute_of_readable hread, carryOut_of_error hsource hcomes] at houtcome
  exact exitCode_of_error houtcome

/-- An error that can be shown is printed, and nothing is written. -/
theorem execute_of_error {error : SourceError} {shown : String}
    (hread : readInput files input = .ok text) (herror : Program.ofText text = .error error)
    (hcomes : command.question.ComesUpon error)
    (hshown : (error.report 0).render {} [.ofText input.name text] (settings.colored coloring) =
      .ok shown) :
    execute ⟨command, input, coloring⟩ settings files =
      .ok ⟨1, command.announcement input, shown ++ "errors while compiling\n", files⟩ := by
  have hreports : [error.report 0].mapM
      (Report.render {} [.ofText input.name text] (settings.colored coloring)) = .ok [shown] := by
    rw [List.mapM_cons, hshown]
    rfl
  have hsource : Program.ofText (Source.ofText input.name text).text = .error error := herror
  have hlast : String.join [shown] ++ "" ++ "errors while compiling" ++ "\n" =
      shown ++ "errors while compiling\n" := by
    rw [← String.toList_inj]
    simp
  rw [execute_of_readable hread, carryOut_of_error hsource hcomes, ← hlast]
  exact conclude_of_shown _ _ hreports

/-! ## Results -/

theorem carryOut_tokens {tokens : List Token} (hlex : Token.lex source.text = .ok tokens) :
    carryOut .tokens input 0 (start files source) =
      (.ok 0, (start files source).print
        (String.join (tokens.map fun token => token.text ++ "\n"))) := by
  have hsource : (Session.holding source).sources[0]? = some source := rfl
  have htokens := Session.tokens_of_source hsource
  rw [hlex] at htokens
  rw [carryOut, printTokens, step, start, htokens]
  rfl

/-- The session after the script of a source was made. -/
def warned (source : Source) (program : Program) : Session :=
  (Session.holding source).reporting (Session.warnings source program)

theorem script_holding (hprogram : Program.ofText source.text = .ok program) :
    (Session.holding source).script 0 = (.ok (.ofProgram program), warned source program) := by
  have hsource : (Session.holding source).sources[0]? = some source := rfl
  rw [Session.script_of_source hsource, hprogram]
  rfl

theorem carryOut_compile {path : String} {saved : Except FileError Unit}
    {written : FileSystem.Written} (hprogram : Program.ofText source.text = .ok program)
    (hsaved : files.save path (Script.ofProgram program).code = (saved, written)) :
    carryOut (.compile path) input 0 (start files source) =
      ((saved.mapError .file).map fun _ => 0,
        ⟨warned source program, written.files,
          Command.announcement input (.compile path) ++ written.output, written.errors⟩) := by
  rw [carryOut, saveScript, step, start, Progress.print, script_holding hprogram]
  dsimp only [Except.mapError, Progress.print]
  rw [hsaved, String.empty_append, String.empty_append]
  rfl

/-- What was printed without a report is the outcome. -/
theorem conclude_print (shown : String) :
    conclude color (.ok 0, (start files source).print shown) = .ok ⟨0, shown, "", files⟩ := by
  have hreports : (start files source).session.reports.mapM
      (Report.render {} (start files source).session.sources color) = .ok [] := rfl
  have hconclude := conclude_of_shown (.ok 0) ((start files source).print shown) hreports
  simpa [start, Progress.print] using hconclude

theorem execute_tokens {tokens : List Token} (hread : readInput files input = .ok text)
    (hlex : Token.lex text = .ok tokens) :
    execute ⟨.tokens, input, coloring⟩ settings files =
      .ok ⟨0, String.join (tokens.map fun token => token.text ++ "\n"), "", files⟩ := by
  have hsource : Token.lex (Source.ofText input.name text).text = .ok tokens := hlex
  rw [execute_of_readable hread, carryOut_tokens hsource, conclude_print]

section

variable (hread : readInput files input = .ok text) (hprogram : Program.ofText text = .ok program)
  (hreports : (Session.warnings (.ofText input.name text) program).mapM
    (Report.render {} [.ofText input.name text] (settings.colored coloring)) = .ok reports)
include hread hprogram hreports

theorem execute_compile {path : String} {written : FileSystem.Written}
    (hsaved : files.save path (Script.ofProgram program).code = (.ok (), written)) :
    execute ⟨.compile path, input, coloring⟩ settings files =
      .ok ⟨0, Command.announcement input (.compile path) ++ written.output,
        String.join reports ++ written.errors, written.files⟩ := by
  have hsource : Program.ofText (Source.ofText input.name text).text = .ok program := hprogram
  rw [execute_of_readable hread, carryOut_compile hsource hsaved]
  exact conclude_of_shown _ _ hreports

theorem execute_compile_unsaved {path : String} {error : FileError} {written : FileSystem.Written}
    (hsaved : files.save path (Script.ofProgram program).code = (.error error, written)) :
    execute ⟨.compile path, input, coloring⟩ settings files =
      .ok ⟨1, Command.announcement input (.compile path) ++ written.output,
        String.join reports ++ written.errors ++ error.message ++ "\n", written.files⟩ := by
  have hsource : Program.ofText (Source.ofText input.name text).text = .ok program := hprogram
  rw [execute_of_readable hread, carryOut_compile hsource hsaved]
  exact conclude_of_shown _ _ hreports

end

end Invocation

end TinyC
