import TinyC.Text.Bytes

/-!
# Sources and their lines

A source is a named text together with the byte offsets of its line feeds.
Every lookup between bytes, lines and columns reads this table.  Lines are
numbered from zero in lookups and from one where they are shown.
-/

namespace TinyC

/-- The byte offsets of the line feeds of a text that begins at the given offset. -/
def lineBreaksFrom (offset : Nat) : List Char → List Nat
  | [] => []
  | c :: rest =>
      if c = '\n' then offset :: lineBreaksFrom (offset + c.utf8Size) rest
      else lineBreaksFrom (offset + c.utf8Size) rest

/-- A named text, with the path it was read from if it has one. -/
structure Source where
  name : String
  path : Option String
  text : String
  lineBreaks : List Nat := lineBreaksFrom 0 text.toList
  lineBreaks_eq : lineBreaks = lineBreaksFrom 0 text.toList := by rfl

namespace Source

/-- A text given directly, without a path. -/
def ofText (name text : String) : Source := { name, path := none, text }

/-- The number of bytes of the text. -/
def byteLength (source : Source) : Nat := Text.byteLength source.text.toList

/-- The number of lines: one more than there are line feeds. -/
def lineCount (source : Source) : Nat := 1 + source.lineBreaks.length

/-- The line on which a byte offset lies.  A line feed belongs to the line that it ends. -/
def lineIndex? (source : Source) (byte : Nat) : Option Nat :=
  if source.byteLength < byte then none
  else some (source.lineBreaks.takeWhile fun lineBreak => decide (lineBreak < byte)).length

/-- The byte offset at which a line starts. -/
def lineStart? (source : Source) : Nat → Option Nat
  | 0 => some 0
  | line + 1 => source.lineBreaks[line]?.map (· + 1)

/-- The line and the column of a byte offset, both counted from one. -/
def lineColumn? (source : Source) (byte : Nat) : Option (Nat × Nat) := do
  let line ← source.lineIndex? byte
  let start ← source.lineStart? line
  return (line + 1, byte - start + 1)

/-- A text without the given character at its end. -/
def withoutEnd (c : Char) (text : List Char) : List Char :=
  if text.getLast? = some c then text.dropLast else text

/-- The text of a line without its line ending: a line feed, or a carriage return and a line
feed. -/
def line? (source : Source) (line : Nat) : Option (List Char) := do
  let start ← source.lineStart? line
  let stop := (source.lineStart? (line + 1)).getD source.byteLength
  let ended ← Text.slice? start stop source.text.toList
  return withoutEnd '\r' (withoutEnd '\n' ended)

end Source

end TinyC
