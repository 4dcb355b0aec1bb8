import TinyC.CommandLine.Execution

/-!
# The program

Finds the files that an invocation may touch, carries it out on a copy of them,
and then prints and writes what it leaves.
-/

namespace TinyC

/-- A file system with what stands at a location of the system, if anything does.  Devices and
programs are known already. -/
private def observe (files : FileSystem) (location : Location) : IO FileSystem := do
  match files.root.at? location with
  | some (.device _) | some (.program _) => return files
  | _ =>
      try
        let path ← IO.FS.realPath ("/" ++ "/".intercalate location)
        if ← path.isDir then
          if (files.root.at? location).isSome then return files
          else return files.put location (.directory [])
        else return files.put location (.file (← IO.FS.readBinFile path).data.toList)
      catch _ => return files

/-- A file system with what stands on the way to a path. -/
private def observeWay (files : FileSystem) (path : String) : IO FileSystem := do
  let location := files.start path ++ Path.parts path
  (List.range (location.length + 1)).foldlM (fun files length =>
    observe files (location.take length)) files

/-- The paths that an invocation names. -/
private def pathsOf (invocation : Invocation) : List String :=
  let inputs := if invocation.input.isText then [] else [invocation.input.argument]
  match invocation.command with
  | .compile output => output :: inputs
  | .run interpreter => if interpreter.toList.contains '/' then interpreter :: inputs else inputs
  | _ => inputs

/-- Writes the files and directories of one file system that another lacks. -/
private def store (before after : FileSystem) : IO Unit :=
  after.listing.forM fun (location, content) => do
    let path := "/" ++ "/".intercalate location
    match content, before.root.at? location with
    | none, some _ => return
    | none, none => IO.FS.createDirAll path
    | some content, some (.file known) =>
        if known ≠ content then IO.FS.writeBinFile path ⟨content.toArray⟩
    | some content, _ => IO.FS.writeBinFile path ⟨content.toArray⟩

/-- The settings of the process. -/
private def settings : IO Settings := do
  return { terminal := ← IO.getEnv "TERM", noColor := (← IO.getEnv "NO_COLOR").isSome,
           interpreter := ← IO.getEnv "MINICC_PYTHON" }

end TinyC

open TinyC in
/-- Carries out the command line. -/
def main (arguments : List String) : IO UInt32 := do
  let settings ← settings
  match Invocation.ofArguments settings.defaultInterpreter arguments with
  | .error error =>
      if error.isRequest then
        IO.print usage
        return 0
      IO.eprint usage
      return 2
  | .ok invocation =>
      let directory := (← IO.currentDir).toString
      let files ← (pathsOf invocation).foldlM observeWay (Interpreter.system (Path.parts directory))
      match invocation.execute settings files with
      | .error _ => return 101
      | .ok outcome =>
          IO.print outcome.output
          IO.eprint outcome.errors
          store files outcome.files
          return outcome.exitCode.toUInt32
