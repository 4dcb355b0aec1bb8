import TinyC.CommandLine.Path

/-!
# Invocations

What a command line can ask for, and what can be wrong with it.
-/

namespace TinyC

/-- When reports are coloured. -/
inductive Coloring
  | auto
  | always
  | never
  deriving DecidableEq, Repr

/-- The name of a choice in answers. -/
def Coloring.name : Coloring → String
  | .auto => "Auto"
  | .always => "Always"
  | .never => "Never"

/-- The choice that a value stands for. -/
def Coloring.ofValue? (value : String) : Option Coloring :=
  if value = "auto" then some .auto
  else if value = "always" then some .always
  else if value = "never" then some .never
  else none

/-- Where a program comes from: a file, or the argument itself. -/
structure Input where
  argument : String
  isText : Bool
  deriving DecidableEq, Repr

namespace Input

/-- The name under which reports show the program. -/
def name (input : Input) : String := if input.isText then "<unnamed>" else input.argument

/-- The name of the script without its extension. -/
def stem (input : Input) : String :=
  if input.isText then "main" else (Path.stem? input.argument).getD "main"

end Input

/-- What is to be done with a program. -/
inductive Command
  | tokens
  | parse
  | compile (output : String)
  | run (interpreter : String)
  deriving DecidableEq, Repr

/-- What a command line asks for. -/
structure Invocation where
  command : Command
  input : Input
  coloring : Coloring
  deriving DecidableEq, Repr

/-- What is wrong with a command line, or that it asks for help only. -/
inductive UsageError
  | missingRequiredArgument
  | invalidValue
  | unknownArgument
  | invalidSubcommand
  | missingSubcommand
  | nothingGiven
  | argumentConflict
  | tooManyValues
  | displayHelp
  | displayVersion
  deriving DecidableEq, Repr

/-- The name of an error in answers. -/
def UsageError.name : UsageError → String
  | .missingRequiredArgument => "MissingRequiredArgument"
  | .invalidValue => "InvalidValue"
  | .unknownArgument => "UnknownArgument"
  | .invalidSubcommand => "InvalidSubcommand"
  | .missingSubcommand => "MissingSubcommand"
  | .nothingGiven => "DisplayHelpOnMissingArgumentOrSubcommand"
  | .argumentConflict => "ArgumentConflict"
  | .tooManyValues => "TooManyValues"
  | .displayHelp => "DisplayHelp"
  | .displayVersion => "DisplayVersion"

/-- Whether a command line asks for nothing but help, so that it is not wrong. -/
def UsageError.isRequest : UsageError → Bool
  | .displayHelp | .displayVersion => true
  | _ => false

/-- How the program is called. -/
def usage : String :=
  "\n".intercalate
    ["Usage: tinyc [--color <auto|always|never>] <command>",
      "",
      "  tokens <input> [-s]                print the tokens of a program, one per line",
      "  parse <input> [-s]                 print the syntax tree of a program",
      "  compile <input> [-s] -o <output>   compile a program to a script",
      "  run <input> [-s] [--python <name>] compile a program and run it",
      "",
      "With -s the input is the program itself instead of the path of its file.", ""]

end TinyC
