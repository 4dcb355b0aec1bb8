import TinyC.CommandLine.Arguments
import TinyC.CommandLine.Interpreter
import TinyC.Session

/-!
# Carrying out invocations

What an invocation prints, with which code it ends, and which files it leaves.
A program is read, then compiled as far as the command needs, and only then
is anything written.
-/

namespace TinyC

/-- What a process finds besides its arguments and files. -/
structure Settings where
  terminal : Option String := none
  noColor : Bool := false
  interpreter : Option String := none
  deriving DecidableEq, Repr

namespace Settings

/-- Whether reports are coloured. -/
def colored (settings : Settings) : Coloring → Bool
  | .always => true
  | .never => false
  | .auto =>
      match settings.terminal with
      | none => false
      | some terminal => terminal ≠ "dumb" && !settings.noColor

/-- The interpreter that runs scripts where no option names one. -/
def defaultInterpreter (settings : Settings) : String := settings.interpreter.getD "python3"

end Settings

/-- Why a command fails. -/
inductive CommandError
  | file (error : FileError)
  | interpreter (name : String) (error : FileError)
  | refused (refusal : Refusal)
  deriving DecidableEq, Repr

/-- The message of an error. -/
def CommandError.message : CommandError → String
  | .file error => error.message
  | .interpreter name error => "failed to run `" ++ name ++ "`: " ++ error.message
  | .refused refusal => refusal.message

/-- What a process leaves behind. -/
structure Outcome where
  exitCode : Nat
  output : String
  errors : String
  files : FileSystem

namespace Invocation

/-- The text of the program. -/
def readInput (files : FileSystem) (input : Input) : Except FileError String :=
  if input.isText then .ok input.argument else files.readText input.argument

/-- What a command has printed so far, and the session and the files that it works on. -/
structure Progress where
  session : Session
  files : FileSystem
  output : String := ""
  /-- What was printed about errors, the reports of the session apart. -/
  errors : String := ""

/-- How a command ends on its own: well with a code, or with an error. -/
abbrev Ending : Type := Except CommandError Nat

/-- Takes a step of the session. -/
def step {α : Type} (progress : Progress) (next : Session → Except Refusal α × Session) :
    Except CommandError α × Progress :=
  let (result, session) := next progress.session
  (result.mapError .refused, { progress with session })

/-- Prints a text. -/
def Progress.print (progress : Progress) (text : String) : Progress :=
  { progress with output := progress.output ++ text }

/-- Prints the tokens of a source. -/
def printTokens (source : Nat) (progress : Progress) : Ending × Progress :=
  match step progress (·.tokens source) with
  | (.error error, progress) => (.error error, progress)
  | (.ok tokens, progress) =>
      (.ok 0, progress.print (String.join (tokens.map fun token => token.text ++ "\n")))

/-- Prints the syntax tree of a source. -/
def printProgram (source : Nat) (progress : Progress) : Ending × Progress :=
  match step progress (·.program source) with
  | (.error error, progress) => (.error error, progress)
  | (.ok program, progress) => (.ok 0, progress.print (program.constructorForm ++ "\n"))

/-- Writes the script of a source to a file. -/
def saveScript (source : Nat) (name path : String) (progress : Progress) : Ending × Progress :=
  let announced := progress.print ("compiling " ++ name ++ " to " ++ path ++ "...\n")
  match step announced (·.script source) with
  | (.error error, progress) => (.error error, progress)
  | (.ok script, progress) =>
      let (saved, written) := progress.files.save path script.code
      ((saved.mapError .file).map fun _ => 0,
        { progress.print written.output with
          files := written.files, errors := progress.errors ++ written.errors })

/-- Hands the script of a source to an interpreter, in a file of its own. -/
def runScript (source : Nat) (stem interpreter : String) (progress : Progress) :
    Ending × Progress :=
  match step progress (·.script source) with
  | (.error error, progress) => (.error error, progress)
  | (.ok script, progress) =>
      let fileName := stem ++ ".py"
      if FileSystem.nameLimit < Text.byteLength fileName.toList then
        (.error (.file .nameTooLong), progress)
      else
        match Interpreter.find progress.files interpreter with
        | .error error => (.error (.interpreter interpreter error), progress)
        | .ok program =>
            let completion := program.run fileName script
            (.ok completion.exitCode,
              { progress.print completion.output with
                errors := progress.errors ++ completion.errors })

/-- Carries out a command on a source. -/
def carryOut (command : Command) (input : Input) (source : Nat) (progress : Progress) :
    Ending × Progress :=
  match command with
  | .tokens => printTokens source progress
  | .parse => printProgram source progress
  | .compile path => saveScript source input.name path progress
  | .run interpreter => runScript source input.stem interpreter progress

/-- The outcome of an invocation. -/
def execute (invocation : Invocation) (settings : Settings) (files : FileSystem) :
    Except Fault Outcome := do
  match readInput files invocation.input with
  | .error error => return ⟨1, "", error.message ++ "\n", files⟩
  | .ok text =>
      let source := Source.ofText invocation.input.name text
      let (id, session) := Session.empty.addSource source
      let (ending, progress) :=
        carryOut invocation.command invocation.input id ⟨session, files, "", ""⟩
      let color := settings.colored invocation.coloring
      let reports ← progress.session.reports.mapM (Report.render {} progress.session.sources color)
      let errors := String.join reports ++ progress.errors
      match ending with
      | .ok exitCode => return ⟨exitCode, progress.output, errors, progress.files⟩
      | .error error =>
          return ⟨1, progress.output, errors ++ error.message ++ "\n", progress.files⟩

end Invocation

end TinyC
