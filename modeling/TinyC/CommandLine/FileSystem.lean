import TinyC.CommandLine.Path
import TinyC.Text.Bytes

/-!
# File systems

A file system is a tree of directories with files, programs and devices in them.
Paths are followed name by name, so that a path through a file or a missing
directory fails where the system would fail.
-/

namespace TinyC

/-! ## Errors -/

/-- Why a file cannot be read or written. -/
inductive FileError
  | notFound
  | noDevice
  | permissionDenied
  | alreadyExists
  | notADirectory
  | isADirectory
  | noSpace
  | nameTooLong
  | notText
  deriving DecidableEq, Repr

/-- The message of an error. -/
def FileError.message : FileError → String
  | .notFound => "No such file or directory (os error 2)"
  | .noDevice => "No such device or address (os error 6)"
  | .permissionDenied => "Permission denied (os error 13)"
  | .alreadyExists => "File exists (os error 17)"
  | .notADirectory => "Not a directory (os error 20)"
  | .isADirectory => "Is a directory (os error 21)"
  | .noSpace => "No space left on device (os error 28)"
  | .nameTooLong => "File name too long (os error 36)"
  | .notText => "stream did not contain valid UTF-8"

/-! ## Entries -/

/-- Files behind which there is no content of their own. -/
inductive Device
  /-- Has nothing to read and forgets what is written. -/
  | null
  /-- Has no room for anything. -/
  | full
  /-- The terminal, which a process without one cannot open. -/
  | terminal
  /-- What the process prints. -/
  | output
  /-- What the process prints about errors. -/
  | errors
  deriving DecidableEq, Repr

/-- What can stand in a directory. -/
inductive Entry
  | file (content : List UInt8)
  | program (name : String)
  | device (device : Device)
  | directory (children : List (String × Entry))

/-- The names that lead from the root to an entry. -/
abbrev Location := List String

namespace Entry

/-- The entry to which names lead from another. -/
def at? (entry : Entry) : Location → Option Entry
  | [] => some entry
  | name :: rest =>
      match entry with
      | .directory children => (children.lookup name).bind fun child => child.at? rest
      | _ => none

/-- An entry with another put where names lead.  What is missing on the way is made. -/
def put (entry : Entry) : Location → Entry → Entry
  | [], new => new
  | name :: rest, new =>
      let children :=
        match entry with
        | .directory children => children
        | _ => []
      let child := (children.lookup name).getD (.directory [])
      .directory ((name, child.put rest new) :: children.filter fun other => other.1 ≠ name)

mutual

/-- The files and directories below an entry, with their locations.  A directory has no
content. -/
def listing (location : Location) : Entry → List (Location × Option (List UInt8))
  | .file content => [(location, some content)]
  | .program _ | .device _ => []
  | .directory children => (location, none) :: listingOfAll location children

/-- The files and directories below the entries of a directory. -/
def listingOfAll (location : Location) :
    List (String × Entry) → List (Location × Option (List UInt8))
  | [] => []
  | (name, entry) :: rest => listing (location ++ [name]) entry ++ listingOfAll location rest

end

end Entry

/-! ## File systems -/

/-- The tree of all entries, and the directory from which relative paths start. -/
structure FileSystem where
  root : Entry
  workingDirectory : Location

namespace FileSystem

/-- The largest number of bytes in a name. -/
def nameLimit : Nat := 255

/-- The largest number of bytes in a path. -/
def pathLimit : Nat := 4095

/-- Puts an entry at a location. -/
def put (files : FileSystem) (location : Location) (entry : Entry) : FileSystem :=
  { files with root := files.root.put location entry }

/-! ### Following paths -/

/-- Follows parts of a path from an entry whose location is given backwards.  Gives the location
to which they lead, backwards, and what stands there; every part before the last has to lead to a
directory. -/
def follow (files : FileSystem) (backwards : Location) (entry : Entry) :
    List String → Except FileError (Location × Option Entry)
  | [] => .ok (backwards, some entry)
  | part :: rest =>
      match entry with
      | .directory children =>
          if part = "." then files.follow backwards entry rest
          else if part = ".." then
            let above := backwards.tail
            files.follow above ((files.root.at? above.reverse).getD files.root) rest
          else if nameLimit < Text.byteLength part.toList then .error .nameTooLong
          else
            match children.lookup part with
            | some child => files.follow (part :: backwards) child rest
            | none => if rest.isEmpty then .ok (part :: backwards, none) else .error .notFound
      | _ => .error .notADirectory

/-- The directory at which a path starts. -/
def start (files : FileSystem) (path : String) : Location :=
  if Path.isAbsolute path then [] else files.workingDirectory

/-- Follows some parts of a path from the directory at which the path starts. -/
def followFor (files : FileSystem) (path : String) (parts : List String) :
    Except FileError (Location × Option Entry) :=
  if path.isEmpty then .error .notFound
  else if pathLimit < Text.byteLength path.toList then .error .nameTooLong
  else
    let start := files.start path
    match files.root.at? start with
    | none => .error .notFound
    | some entry => files.follow start.reverse entry parts

/-- The location that a path names, backwards, and what stands there. -/
def find (files : FileSystem) (path : String) : Except FileError (Location × Option Entry) :=
  files.followFor path (Path.parts path)

/-- Whether a path leads to a directory. -/
def hasDirectory (files : FileSystem) (path : String) : Bool :=
  match files.find path with
  | .ok (_, some (.directory _)) => true
  | _ => false

/-! ### Reading -/

/-- The text of the file at a path. -/
def readText (files : FileSystem) (path : String) : Except FileError String := do
  match ← files.find path with
  | (_, none) => throw .notFound
  | (_, some (.directory _)) => throw .isADirectory
  | (_, some entry) =>
      if Path.asksForDirectory path then throw .notADirectory
      match entry with
      | .file content =>
          match Text.decode? content with
          | some text => return text
          | none => throw .notText
      | .device .terminal => throw .noDevice
      | .device _ => return ""
      | _ => throw .notText

/-! ### Writing -/

/-- What writing has changed: the files, or what the process prints. -/
structure Written where
  files : FileSystem
  output : String := ""
  errors : String := ""

/-- What stands where a path asks for a file, which may be missing.  A slash at the end asks for a
directory, whatever stands there. -/
def findFile (files : FileSystem) (path : String) : Except FileError (Location × Option Entry) := do
  if Path.asksForDirectory path then
    match ← files.followFor path (Path.parts path).dropLast with
    | (_, none) => throw .notFound
    | (_, some (.directory _)) => throw .isADirectory
    | (_, some _) => throw .notADirectory
  files.find path

/-- Writes a text to the file at a path. -/
def writeText (files : FileSystem) (path text : String) : Except FileError Written := do
  match ← files.findFile path with
  | (_, some (.directory _)) => throw .isADirectory
  | (_, some (.program _)) => throw .permissionDenied
  | (_, some (.device .full)) => if text.isEmpty then return ⟨files, "", ""⟩ else throw .noSpace
  | (_, some (.device .terminal)) => throw .noDevice
  | (_, some (.device .null)) => return ⟨files, "", ""⟩
  | (_, some (.device .output)) => return ⟨files, text, ""⟩
  | (_, some (.device .errors)) => return ⟨files, "", text⟩
  | (backwards, _) => return ⟨files.put backwards.reverse (.file (Text.encode text)), "", ""⟩

/-- The file system after one directory is made. -/
def makeDirectory (files : FileSystem) (path : String) : Except FileError FileSystem := do
  match ← files.find path with
  | (backwards, none) => return files.put backwards.reverse (.directory [])
  | (_, some _) => throw .alreadyExists

/-- The outcome of making a directory and those that hold it, given from the inner to the outer,
and the file system after it.  Directories made before a failure stay. -/
def makeDirectories (files : FileSystem) : (paths : List String) → Except FileError Unit × FileSystem
  | [] => (.ok (), files)
  | path :: above =>
      if path.isEmpty then (.ok (), files)
      else
        match files.makeDirectory path with
        | .ok made => (.ok (), made)
        | .error error =>
            if error = .notFound then
              match files.makeDirectories above with
              | (.error error, made) => (.error error, made)
              | (.ok (), made) =>
                  match made.makeDirectory path with
                  | .ok complete => (.ok (), complete)
                  | .error error =>
                      -- Two dots at the end lead to a directory that exists by now.
                      if made.hasDirectory path then (.ok (), made) else (.error error, made)
            else if files.hasDirectory path then (.ok (), files)
            else (.error error, files)

/-- The outcome of writing a text to the file at a path in a directory that is made first if it is
missing, and what has changed after it. -/
def save (files : FileSystem) (path text : String) : Except FileError Unit × Written :=
  let (outcome, made) : Except FileError Unit × FileSystem :=
    match Path.parent? path with
    | none => (.ok (), files)
    | some directory => files.makeDirectories (Path.ancestors directory)
  match outcome with
  | .error error => (.error error, ⟨made, "", ""⟩)
  | .ok () =>
      match made.writeText path text with
      | .error error => (.error error, ⟨made, "", ""⟩)
      | .ok written => (.ok (), written)

/-! ### Building and comparing -/

/-- A file system in which only the working directory and those above it exist. -/
def empty (workingDirectory : Location) : FileSystem where
  root := (Entry.directory []).put workingDirectory (.directory [])
  workingDirectory

/-- The file system with one more file, and the directories on the way to it. -/
def addFile (files : FileSystem) (path : String) (content : List UInt8) : FileSystem :=
  files.put (files.start path ++ Path.parts path) (.file content)

/-- The files and directories of a file system, with their locations. -/
def listing (files : FileSystem) : List (Location × Option (List UInt8)) := files.root.listing []

/-- The files in the working directory that a later file system has anew or with another content,
with their paths. -/
def changes (before after : FileSystem) : List (String × List UInt8) :=
  match after.root.at? after.workingDirectory with
  | none => []
  | some directory =>
      (directory.listing []).filterMap fun (location, content) =>
        match content with
        | none => none
        | some content =>
            match before.root.at? (after.workingDirectory ++ location) with
            | some (.file known) =>
                if known = content then none else some ("/".intercalate location, content)
            | _ => some ("/".intercalate location, content)

end FileSystem

end TinyC
