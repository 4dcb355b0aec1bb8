/-!
# Kinds of values

Every value of a script has a kind, which is a value too.  A kind may be part of
another; all of them are part of `object`.
-/

namespace TinyC.Script.Kind

/-- The kinds that make values when they are called, errors apart. -/
def makers : List String :=
  ["bool", "bytearray", "bytes", "classmethod", "complex", "dict", "enumerate", "filter", "float",
    "frozenset", "int", "list", "map", "memoryview", "object", "property", "range", "reversed",
    "set", "slice", "staticmethod", "str", "super", "tuple", "type", "zip"]

/-- Errors, with the errors that are part of them. -/
def errors : List (String × List String) :=
  [("object", ["BaseException"]),
    ("BaseException", ["BaseExceptionGroup", "Exception", "GeneratorExit", "KeyboardInterrupt",
      "SystemExit"]),
    ("BaseExceptionGroup", ["ExceptionGroup"]),
    ("Exception", ["ArithmeticError", "AssertionError", "AttributeError", "BufferError", "EOFError",
      "ImportError", "LookupError", "MemoryError", "NameError", "OSError", "ReferenceError",
      "RuntimeError", "StopAsyncIteration", "StopIteration", "SyntaxError", "SystemError",
      "TypeError", "ValueError", "Warning"]),
    ("ArithmeticError", ["FloatingPointError", "OverflowError", "ZeroDivisionError"]),
    ("ImportError", ["ModuleNotFoundError"]),
    ("LookupError", ["IndexError", "KeyError"]),
    ("NameError", ["UnboundLocalError"]),
    ("OSError", ["BlockingIOError", "ChildProcessError", "ConnectionError", "FileExistsError",
      "FileNotFoundError", "InterruptedError", "IsADirectoryError", "NotADirectoryError",
      "PermissionError", "ProcessLookupError", "TimeoutError"]),
    ("ConnectionError", ["BrokenPipeError", "ConnectionAbortedError", "ConnectionRefusedError",
      "ConnectionResetError"]),
    ("RuntimeError", ["NotImplementedError", "RecursionError"]),
    ("SyntaxError", ["IndentationError"]),
    ("IndentationError", ["TabError"]),
    ("ValueError", ["UnicodeError"]),
    ("UnicodeError", ["UnicodeDecodeError", "UnicodeEncodeError", "UnicodeTranslateError"]),
    ("Warning", ["BytesWarning", "DeprecationWarning", "EncodingWarning", "FutureWarning",
      "ImportWarning", "PendingDeprecationWarning", "ResourceWarning", "RuntimeWarning",
      "SyntaxWarning", "UnicodeWarning", "UserWarning"])]

/-- Other names of kinds. -/
def synonyms : List (String × String) := [("EnvironmentError", "OSError"), ("IOError", "OSError")]

/-- The kind with a name. -/
def ofName? (name : String) : Option String :=
  if makers.contains name || errors.any fun (_, parts) => parts.contains name then some name
  else synonyms.lookup name

/-- The kind of which a kind is part. -/
def whole? (kind : String) : Option String :=
  match errors.find? fun (_, parts) => parts.contains kind with
  | some (whole, _) => some whole
  | none =>
      if kind = "object" then none
      else if kind = "bool" then some "int"
      else some "object"

/-- The largest number of kinds that are parts of each other. -/
def depth : Nat := 8

/-- Whether a kind is another one, or part of it. -/
def isPartOf (whole : String) : (remaining : Nat) → (kind : String) → Bool
  | 0, kind => kind = whole
  | remaining + 1, kind =>
      -- Groups of exceptions are exceptions in two ways.
      kind = whole || (kind = "ExceptionGroup" && whole = "Exception") ||
        match whole? kind with
        | some next => isPartOf whole remaining next
        | none => false

/-- Whether values of a kind are values of another one too. -/
def isKind (kind whole : String) : Bool := isPartOf whole depth kind

/-- Whether the values of a kind are errors. -/
def isError (kind : String) : Bool := isKind kind "BaseException"

end TinyC.Script.Kind
