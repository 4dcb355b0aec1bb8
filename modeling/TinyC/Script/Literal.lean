import TinyC.Text.Numeral
import TinyC.Unicode.Printable

/-!
# String literals in scripts

Text between double quotes on one line.  Quotes, backslashes and controls are
escaped; every other character stands for itself.
-/

namespace TinyC.Script.Literal

/-- A control as an escape with two hexadecimal digits. -/
def control (c : Char) : List Char :=
  ['\\', 'x', Numeral.digit (c.toNat / 16), Numeral.digit (c.toNat % 16)]

/-- One character as it stands in a literal. -/
def escape (c : Char) : List Char :=
  if c = '\\' ∨ c = '"' then ['\\', c]
  else if c = '\n' then ['\\', 'n']
  else if c = '\t' then ['\\', 't']
  else if c = '\r' then ['\\', 'r']
  else if Unicode.isControl c then control c
  else [c]

/-- The literal of a text. -/
def encode (value : List Char) : List Char :=
  '"' :: value.flatMap escape ++ ['"']

end TinyC.Script.Literal
