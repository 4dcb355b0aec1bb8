import TinyC.Text.Width

/-!
# Screens

What a screen makes of text: the number of columns that a text takes, and how
far to the right the text of a row can begin.  Reports are shown on the standard
screen; the rules by which they are laid out are the same on every one.
-/

namespace TinyC

/-- How texts are measured, and how wide fields of spaces can be. -/
structure Screen where
  /-- The number of columns that a text takes. -/
  width : List Char → Nat
  /-- The largest number of columns that a field of spaces can have, if there is one. -/
  widestField : Option Nat

namespace Screen

/-- The screen on which reports are shown. -/
def standard : Screen := ⟨Text.width, some 65535⟩

/-- Whether a field of spaces can have the given number of columns. -/
def hasField (screen : Screen) (columns : Nat) : Bool :=
  screen.widestField.all fun widest => columns ≤ widest

end Screen

end TinyC
