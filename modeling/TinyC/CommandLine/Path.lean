/-!
# Paths

A path is a text whose parts are separated by slashes.  A slash at its beginning
makes it absolute; a slash at its end asks for a directory.

A path begins with what names no entry: the slash of an absolute path, or a dot
that names the working directory.  Of the stretches after that beginning, the
empty ones and the dots lead nowhere.
-/

namespace TinyC.Path

/-! ## Parts -/

/-- The stretches of a text between slashes. -/
def stretches : List Char → List (List Char)
  | [] => [[]]
  | c :: rest =>
      if c = '/' then [] :: stretches rest
      else
        match stretches rest with
        | [] => [[c]]
        | first :: others => (c :: first) :: others

/-- The parts of a path, without the empty ones. -/
def parts (path : String) : List String :=
  ((stretches path.toList).filter fun stretch => !stretch.isEmpty).map String.ofList

/-- Whether a path starts at the root. -/
def isAbsolute (path : String) : Bool := path.toList.head? = some '/'

/-- Whether a path ends with a slash. -/
def asksForDirectory (path : String) : Bool := path.toList.getLast? = some '/'

/-! ## Directories of paths -/

/-- The beginning of a path that names no entry, and the rest. -/
def splitBeginning : List Char → List Char × List Char
  | '/' :: rest => (['/'], rest)
  | ['.'] => (['.'], [])
  | '.' :: '/' :: rest => (['.'], '/' :: rest)
  | path => ([], path)

/-- Whether a stretch leads nowhere. -/
def isVoid (stretch : List Char) : Bool := stretch.isEmpty || stretch == ['.']

/-- The stretches of a text from the last that leads somewhere back to the first. -/
def backwards (text : List Char) : List (List Char) := (stretches text).reverse.dropWhile isVoid

/-- The text of a beginning and of stretches that were read backwards. -/
def rejoin (beginning : List Char) (stretches : List (List Char)) : String :=
  String.ofList (beginning ++ ['/'].intercalate stretches.reverse)

/-- The directory that holds what a path names, if the path names something inside one. -/
def parent? (path : String) : Option String :=
  let (beginning, rest) := splitBeginning path.toList
  match backwards rest with
  | [] => if beginning = ['.'] then some "" else none
  | _ :: before => some (rejoin beginning (before.dropWhile isVoid))

/-- A list, then its tail, and so on down to the empty list. -/
def suffixes {α : Type} : List α → List (List α)
  | [] => [[]]
  | first :: rest => (first :: rest) :: suffixes rest

/-- A path, the directory that holds it, the directory that holds that one, and so on. -/
def ancestors (path : String) : List String :=
  let (beginning, rest) := splitBeginning path.toList
  let kept := (suffixes (backwards rest)).filter fun stretches =>
    match stretches with
    | [] => true
    | last :: _ => !isVoid last
  kept.map (rejoin beginning)

/-! ## Names -/

/-- The last part that leads somewhere, if it is the name of a file or a directory. -/
def name? (path : String) : Option String :=
  match backwards (splitBeginning path.toList).2 with
  | [] => none
  | last :: _ => if last = ['.', '.'] then none else some (String.ofList last)

/-- A name without its extension: what is before the last dot, unless nothing is. -/
def withoutExtension (name : String) : String :=
  let extension := name.toList.reverse.takeWhile fun c => c ≠ '.'
  let before := name.toList.take (name.length - extension.length - 1)
  if before.isEmpty then name else String.ofList before

/-- The name of the file at a path, without its extension. -/
def stem? (path : String) : Option String := (name? path).map withoutExtension

end TinyC.Path
