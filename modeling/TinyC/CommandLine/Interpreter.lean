import TinyC.CommandLine.System
import TinyC.Script.Evaluation

/-!
# Interpreters

A script can be handed to any program of the system.  Those known here are the
interpreter of scripts, and programs that show what they are handed: its text,
its name, or nothing.
-/

namespace TinyC

/-- The programs to which a script can be handed. -/
inductive Interpreter
  /-- Runs the script. -/
  | python
  /-- Prints the script. -/
  | cat
  /-- Prints the first lines of the script. -/
  | head
  /-- Prints the last lines of the script. -/
  | tail
  /-- Prints the lines of the script from the last to the first. -/
  | tac
  /-- Prints the lines of the script in order. -/
  | sort
  /-- Prints the lines of the script, but not one that is the same as the line before it. -/
  | uniq
  /-- Prints the lines of the script with numbers. -/
  | nl
  /-- Prints the name of the script's file. -/
  | basename
  /-- Ends well at once. -/
  | succeed
  /-- Ends badly at once. -/
  | fail
  deriving DecidableEq, Repr

namespace Interpreter

/-- The programs with their names.  Several do not care about what stands in the script. -/
def named : List (String × Interpreter) :=
  [("python3", .python), ("cat", .cat), ("paste", .cat), ("expand", .cat), ("unexpand", .cat),
    ("head", .head), ("tail", .tail), ("tac", .tac), ("sort", .sort), ("uniq", .uniq), ("nl", .nl),
    ("basename", .basename), ("true", .succeed), ("test", .succeed), ("touch", .succeed),
    ("rm", .succeed), ("unlink", .succeed), ("sync", .succeed), ("tee", .succeed),
    ("pathchk", .succeed), ("false", .fail), ("grep", .fail), ("readlink", .fail)]

/-- The program with a name. -/
def ofName? (name : String) : Option Interpreter := named.lookup name

/-- The system around a working directory, with the programs known here. -/
def system (workingDirectory : Location) : FileSystem :=
  FileSystem.system (named.map Prod.fst) workingDirectory

/-! ## Finding programs -/

/-- The program at a path. -/
def atPath (files : FileSystem) (path : String) : Except FileError Interpreter := do
  match ← files.find path with
  | (_, none) => throw .notFound
  | (_, some (.directory _)) => throw .permissionDenied
  | (_, some entry) =>
      if Path.asksForDirectory path then throw .notADirectory
      match entry with
      | .program name =>
          match ofName? name with
          | some interpreter => return interpreter
          | none => throw .notFound
      | _ => throw .permissionDenied

/-- The directories in which programs are looked for by name. -/
def directories : List String := ["/usr/local/bin", "/usr/bin", "/bin"]

/-- The program with a name in the first directory that has one.  One that may not be started does
not end the search, but tells why it failed. -/
def search (files : FileSystem) (name : String) (failure : FileError) :
    List String → Except FileError Interpreter
  | [] => .error failure
  | directory :: rest =>
      match atPath files (directory ++ "/" ++ name) with
      | .ok interpreter => .ok interpreter
      | .error .permissionDenied => search files name .permissionDenied rest
      | .error .notFound | .error .notADirectory => search files name failure rest
      | .error error => .error error

/-- The program that a name or a path leads to. -/
def find (files : FileSystem) (name : String) : Except FileError Interpreter :=
  if name.isEmpty then .error .notFound
  else if name.toList.contains '/' then atPath files name
  else if FileSystem.nameLimit < Text.byteLength name.toList then .error .nameTooLong
  else search files name .notFound directories

/-! ## Running programs -/

/-- The number of lines that a program shows of a longer text. -/
def shownLines : Nat := 10

/-- Lines without those that are the same as the line before them. -/
def withoutRepeats : List String → List String
  | first :: second :: rest =>
      if first = second then withoutRepeats (second :: rest)
      else first :: withoutRepeats (second :: rest)
  | lines => lines

/-- The number of columns of a line's number. -/
def numberWidth : Nat := 6

/-- Lines with their numbers, the first one given, in columns of their own.  Empty lines have
none. -/
def numbered (next : Nat) : List String → List String
  | [] => []
  | line :: rest =>
      if line.isEmpty then
        String.ofList (List.replicate (numberWidth + 1) ' ') :: numbered next rest
      else
        let number := Numeral.digits 10 next
        let blanks := List.replicate (numberWidth - number.length) ' '
        (String.ofList (blanks ++ number ++ ['\t']) ++ line) :: numbered (next + 1) rest

/-- What a program does with a script in a file of the given name. -/
def run (interpreter : Interpreter) (fileName : String) (script : Script) : Script.Completion :=
  let shown (lines : List String) : Script.Completion :=
    ⟨0, String.join (lines.map fun line => line ++ "\n"), ""⟩
  match interpreter with
  | .python => script.execute
  | .cat => ⟨0, script.code, ""⟩
  | .head => shown (script.lines.take shownLines)
  | .tail => shown (script.lines.drop (script.lines.length - shownLines))
  | .tac => shown script.lines.reverse
  | .sort => shown (script.lines.mergeSort fun first second => decide (first ≤ second))
  | .uniq => shown (withoutRepeats script.lines)
  | .nl => shown (numbered 1 script.lines)
  | .basename => ⟨0, fileName ++ "\n", ""⟩
  | .succeed => ⟨0, "", ""⟩
  | .fail => ⟨1, "", ""⟩

end Interpreter

end TinyC
