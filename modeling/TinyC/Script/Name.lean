/-!
# Names in scripts

A script may not use the reserved words of its language as names, nor the names
on which its own first lines rely.  An identifier that is one of these is
renamed by an underscore at its end; every other identifier keeps its name.
-/

namespace TinyC.Script

/-- The reserved words of the script's language that an identifier may be. -/
def keywords : List String :=
  ["False", "None", "True", "and", "as", "assert", "async", "await", "break", "class", "continue",
    "def", "del", "elif", "else", "except", "finally", "for", "from", "global", "if", "import",
    "in", "is", "lambda", "nonlocal", "not", "or", "pass", "raise", "try", "while", "with",
    "yield"]

/-- The name of truncating division in scripts. -/
def divisionName : String := "_c_div"

/-- The names on which every script relies. -/
def reliedOn : List String := ["_builtins", "_sys", divisionName, "__name__"]

/-- Whether an identifier cannot keep its name. -/
def isTaken (identifier : String) : Bool :=
  keywords.contains identifier || reliedOn.contains identifier

/-- The name of an identifier in a script. -/
def nameOf (identifier : String) : String :=
  if isTaken identifier then identifier ++ "_" else identifier

end TinyC.Script
