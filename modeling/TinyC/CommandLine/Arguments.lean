import TinyC.CommandLine.Invocation

/-!
# Arguments

Reading a command line.  Options may come in any order, long options with their
value attached by an equals sign or in the next argument, short ones in one
group.  Two dashes end the options.  The first thing that is wrong decides the
error, except that a value in an argument of its own is looked at only when the
next option or the end is reached.

## Strategy

There are two levels, that of the program and that of its command, and each
collects what was `Given` at it.  `Given.awaited` is the option whose value is
still to come or still to be looked at, and `settle` looks at it.
-/

namespace TinyC

/-! ## Levels and options -/

namespace Arguments

/-- The names of the commands. -/
inductive CommandName
  | tokens
  | parse
  | compile
  | run
  deriving DecidableEq, Repr

/-- The command with a name. -/
def CommandName.ofText? (text : String) : Option CommandName :=
  if text = "tokens" then some .tokens
  else if text = "parse" then some .parse
  else if text = "compile" then some .compile
  else if text = "run" then some .run
  else none

/-- Where on the command line an argument stands. -/
inductive Level
  | program
  | command (name : CommandName)
  deriving DecidableEq, Repr

/-- The options. -/
inductive OptionName
  | color
  | source
  | output
  | interpreter
  | help
  | version
  deriving DecidableEq, Repr

/-- Whether an option has a value. -/
def OptionName.hasValue : OptionName → Bool
  | .color | .output | .interpreter => true
  | .source | .help | .version => false

/-- Whether an option is known at a level. -/
def Level.knows : Level → OptionName → Bool
  | _, .color | _, .help => true
  | .program, .version => true
  | .program, _ => false
  | .command _, .source => true
  | .command name, .output => name = .compile
  | .command name, .interpreter => name = .run
  | .command _, .version => false

/-- The option with a long name. -/
def OptionName.ofLong? (name : String) : Option OptionName :=
  if name = "color" then some .color
  else if name = "source" then some .source
  else if name = "output" then some .output
  else if name = "python" then some .interpreter
  else if name = "help" then some .help
  else if name = "version" then some .version
  else none

/-- The option with a short name. -/
def OptionName.ofShort? (c : Char) : Option OptionName :=
  if c = 's' then some .source
  else if c = 'o' then some .output
  else if c = 'h' then some .help
  else if c = 'V' then some .version
  else none

/-! ## What was given -/

/-- What was given at one level. -/
structure Given where
  color : Option Coloring := none
  isText : Bool := false
  output : Option String := none
  interpreter : Option String := none
  input : Option String := none
  /-- The option whose value is still to come, or still to be looked at. -/
  awaited : Option (OptionName × Option String) := none

namespace Given

/-- Whether the next argument is the value of an option. -/
def awaitsValue (given : Given) : Bool :=
  match given.awaited with
  | some (_, none) => true
  | _ => false

/-- Records an option with its value, which may be missing or wrong. -/
def record (given : Given) (name : OptionName) (value : Option String) :
    Except UsageError Given := do
  match name, value with
  | .source, _ =>
      if given.isText then throw .argumentConflict
      return { given with isText := true }
  | .color, some value =>
      if given.color.isSome then throw .argumentConflict
      match Coloring.ofValue? value with
      | some color => return { given with color := some color }
      | none => throw .invalidValue
  | .output, some value =>
      if given.output.isSome then throw .argumentConflict
      if value.isEmpty then throw .invalidValue
      return { given with output := some value }
  | .interpreter, some value =>
      if given.interpreter.isSome then throw .argumentConflict
      return { given with interpreter := some value }
  | .help, _ => throw .displayHelp
  | .version, _ => throw .displayVersion
  | _, none => throw .invalidValue

/-- Looks at the awaited option. -/
def settle (given : Given) : Except UsageError Given :=
  match given.awaited with
  | none => .ok given
  | some (name, value) => { given with awaited := none }.record name value

/-- Records an option, after the awaited one. -/
def next (given : Given) (name : OptionName) (value : Option String) : Except UsageError Given := do
  (← given.settle).record name value

/-- Waits for the value of an option, after the awaited one was looked at. -/
def await (given : Given) (name : OptionName) : Except UsageError Given := do
  return { ← given.settle with awaited := some (name, none) }

end Given

/-! ## Single arguments -/

/-- The shapes of arguments. -/
inductive Shape
  /-- Two dashes, after which there are no options. -/
  | escape
  /-- A long option, with its value if one is attached. -/
  | long (name : String) (value : Option String)
  /-- A group of short options. -/
  | short (group : List Char)
  | plain
  deriving DecidableEq, Repr

/-- The shape of an argument. -/
def Shape.ofText (text : String) : Shape :=
  match text.toList with
  | ['-', '-'] => .escape
  | '-' :: '-' :: rest =>
      match rest.dropWhile fun c => c ≠ '=' with
      | [] => .long (String.ofList rest) none
      | _ :: value =>
          .long (String.ofList (rest.takeWhile fun c => c ≠ '=')) (some (String.ofList value))
  | '-' :: c :: rest => .short (c :: rest)
  | _ => .plain

/-- Reads a long option. -/
def readLong (level : Level) (given : Given) (name : String) (value : Option String) :
    Except UsageError Given := do
  match (OptionName.ofLong? name).filter level.knows with
  | none => throw .unknownArgument
  | some name =>
      match value with
      | some value => if name.hasValue then given.next name (some value) else throw .tooManyValues
      | none => if name.hasValue then given.await name else given.next name none

/-- Reads a group of short options.  The first with a value takes the rest of the group as its
value. -/
def readShort (level : Level) (given : Given) : List Char → Except UsageError Given
  | [] => .ok given
  | c :: rest => do
      match (OptionName.ofShort? c).filter level.knows with
      | none => throw .unknownArgument
      | some name =>
          if !name.hasValue then readShort level (← given.next name none) rest
          else
            match rest with
            | [] => given.await name
            | '=' :: value => given.next name (some (String.ofList value))
            | value => given.next name (some (String.ofList value))

/-! ## Levels -/

/-- Reads the arguments of a command. -/
def readCommand (level : Level) (given : Given) (escaped : Bool) :
    List String → Except UsageError Given
  | [] => given.settle
  | argument :: rest => do
      match if escaped then Shape.plain else Shape.ofText argument with
      | .escape => readCommand level given true rest
      | .long name value => readCommand level (← readLong level given name value) false rest
      | .short group => readCommand level (← readShort level given group) false rest
      | .plain =>
          match escaped, given.awaited with
          | false, some (name, none) =>
              readCommand level { given with awaited := some (name, some argument) } false rest
          | _, _ =>
              -- A second input is wrong before the awaited option is looked at.
              if given.input.isSome then throw .unknownArgument
              let settled ← given.settle
              readCommand level { settled with input := some argument } escaped rest

/-- Reads the arguments after `help`, which have to name a command. -/
def readHelp : List String → UsageError
  | [] => .displayHelp
  | name :: rest =>
      if (CommandName.ofText? name).isSome ∨ name = "help" then
        if rest.isEmpty then .displayHelp else .invalidSubcommand
      else .invalidSubcommand

/-- What a command and its arguments ask for. -/
def commandOf (name : CommandName) (given : Given) (defaultInterpreter : String) :
    Except UsageError (Command × Input) := do
  match given.input with
  | none => throw .missingRequiredArgument
  | some argument =>
      let input : Input := ⟨argument, given.isText⟩
      match name, given.output with
      | .tokens, _ => return (.tokens, input)
      | .parse, _ => return (.parse, input)
      | .compile, some output => return (.compile output, input)
      | .compile, none => throw .missingRequiredArgument
      | .run, _ => return (.run (given.interpreter.getD defaultInterpreter), input)

/-- Reads the arguments of the program up to the name of a command, and those of the command. -/
def readProgram (defaultInterpreter : String) (given : Given) (escaped : Bool) :
    List String → Except UsageError Invocation
  | [] => do
      let settled ← given.settle
      if settled.color.isNone then throw .nothingGiven else throw .missingSubcommand
  | argument :: rest => do
      let isName := !escaped && !given.awaitsValue
      if isName && argument = "help" then throw (readHelp rest)
      match if isName then CommandName.ofText? argument else none with
      | some name =>
          -- What is wrong with the command comes before what is awaited outside it.
          let below ← readCommand (.command name) {} false rest
          let (command, input) ← commandOf name below defaultInterpreter
          let settled ← given.settle
          return ⟨command, input, (below.color <|> settled.color).getD .auto⟩
      | none =>
          match if escaped then Shape.plain else Shape.ofText argument with
          | .escape => readProgram defaultInterpreter given true rest
          | .long name value =>
              readProgram defaultInterpreter (← readLong .program given name value) false rest
          | .short group =>
              readProgram defaultInterpreter (← readShort .program given group) false rest
          | .plain =>
              match escaped, given.awaited with
              | false, some (name, none) =>
                  readProgram defaultInterpreter
                    { given with awaited := some (name, some argument) } false rest
              | true, _ =>
                  if (CommandName.ofText? argument).isSome ∨ argument = "help" then
                    throw .unknownArgument
                  else throw .invalidSubcommand
              | false, _ => throw .invalidSubcommand

end Arguments

/-- What the arguments of the program ask for.  The interpreter is the given one where the
arguments name none. -/
def Invocation.ofArguments (defaultInterpreter : String) (arguments : List String) :
    Except UsageError Invocation :=
  Arguments.readProgram defaultInterpreter {} false arguments

end TinyC
