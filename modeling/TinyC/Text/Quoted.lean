import TinyC.Text.Numeral
import TinyC.Unicode.Printable

/-!
# Quoted text

The form in which names, strings and characters are shown to a programmer:
between quotes, on one line, with every character that cannot be seen or told
apart written as an escape.  Text stands between double quotes and a character
between single quotes; each kind escapes its own quote only.
-/

namespace TinyC.Quoted

/-- The code point of a character between braces. -/
def codePoint (c : Char) : List Char :=
  ['\\', 'u', '\x7b'] ++ Numeral.digits 16 c.toNat ++ ['\x7d']

/-- One character as it stands between the given quotes. -/
def escape (quote c : Char) : List Char :=
  if c = '\x00' then ['\\', '0']
  else if c = '\t' then ['\\', 't']
  else if c = '\r' then ['\\', 'r']
  else if c = '\n' then ['\\', 'n']
  else if c = '\\' ∨ c = quote then ['\\', c]
  else if !Unicode.isVisible c then codePoint c
  else [c]

/-- A text between double quotes. -/
def text (value : String) : String :=
  String.ofList (['"'] ++ value.toList.flatMap (escape '"') ++ ['"'])

/-- A character between single quotes. -/
def character (c : Char) : String :=
  String.ofList (['\''] ++ escape '\'' c ++ ['\''])

end TinyC.Quoted
