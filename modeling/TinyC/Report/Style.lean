import TinyC.Text.Numeral

/-!
# Styled text

Text in segments, each plain or in a style.  Without colour only the text is
written; with colour a styled segment stands between the terminal codes that
set its style and the one that resets it.
-/

namespace TinyC

/-- The colours that have a name. -/
inductive Hue
  | black
  | red
  | green
  | yellow
  | blue
  | magenta
  | cyan
  | white
  deriving DecidableEq, Repr

/-- The number of a colour in the palette. -/
def Hue.number : Hue → Nat
  | .black => 0
  | .red => 1
  | .green => 2
  | .yellow => 3
  | .blue => 4
  | .magenta => 5
  | .cyan => 6
  | .white => 7

/-- The colours of text: those with a name, a palette of 256, and mixtures. -/
inductive Color
  | named (hue : Hue)
  | palette (index : UInt8)
  | mixed (red green blue : UInt8)
  deriving DecidableEq, Repr

/-- The parameter of the code that sets a colour: of the text if the layer is `3`, of what is
behind it if the layer is `4`.  An intense colour is the bright variant of one with a name. -/
def Color.parameter (layer : String) (intense : Bool) : Color → String
  | .named hue =>
      if intense then layer ++ "8;5;" ++ Numeral.ofNat (8 + hue.number)
      else layer ++ Numeral.ofNat hue.number
  | .palette index => layer ++ "8;5;" ++ Numeral.ofNat index.toNat
  | .mixed red green blue =>
      layer ++ "8;2;" ++ Numeral.ofNat red.toNat ++ ";" ++ Numeral.ofNat green.toNat ++ ";" ++
        Numeral.ofNat blue.toNat

/-- A way to show text on a terminal. -/
structure Style where
  /-- Whether the style takes the place of what was set before, and is not added to it. -/
  replacing : Bool := true
  bold : Bool := false
  dimmed : Bool := false
  italic : Bool := false
  underlined : Bool := false
  struck : Bool := false
  intense : Bool := false
  color : Option Color := none
  background : Option Color := none
  deriving DecidableEq, Repr

/-- A piece of text in one style, or plain. -/
structure Segment where
  style : Option Style
  text : String
  deriving DecidableEq, Repr

namespace Style

/-- A code that tells a terminal how to show what follows. -/
def code (parameter : String) : String := "\x1b[" ++ parameter ++ "m"

/-- The code that returns to plain text. -/
def reset : String := code "0"

/-- The parameters of the codes that set what makes a style, in order. -/
def parameters (style : Style) : List String :=
  (if style.bold then ["1"] else []) ++ (if style.dimmed then ["2"] else []) ++
    (if style.italic then ["3"] else []) ++ (if style.underlined then ["4"] else []) ++
    (if style.struck then ["9"] else []) ++
    (style.color.map (Color.parameter "3" style.intense)).toList ++
    (style.background.map (Color.parameter "4" style.intense)).toList

/-- The codes that set a style. -/
def set (style : Style) : String :=
  (if style.replacing then reset else "") ++ String.join (style.parameters.map code)

end Style

namespace Segment

/-- A segment without a style. -/
def plain (text : String) : Segment := ⟨none, text⟩

/-- A segment in a style. -/
def styled (style : Style) (text : String) : Segment := ⟨some style, text⟩

/-- A segment with the codes of its style. -/
def colored (segment : Segment) : String :=
  match segment.style with
  | none => segment.text
  | some style => style.set ++ segment.text ++ Style.reset

/-- The text of segments, with or without the codes of their styles. -/
def write (color : Bool) (segments : List Segment) : String :=
  String.join (segments.map fun segment => if color then segment.colored else segment.text)

end Segment

end TinyC
