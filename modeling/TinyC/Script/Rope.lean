/-!
# Texts in scripts

A text is a row of code points.  Unlike a character, a code point may also be
half of a surrogate pair that stands alone.  Long texts are often made by
repeating short ones and are seldom looked at, so a text keeps the parts of
which it was made, and their code points are listed only when they are needed.
-/

namespace TinyC.Script

/-- A text. -/
inductive Rope
  | plain (points : List Nat)
  | joined (first second : Rope)
  | repeated (part : Rope) (times : Nat)

namespace Rope

/-- The number of code points of a text. -/
def length : Rope → Nat
  | .plain points => points.length
  | .joined first second => first.length + second.length
  | .repeated part times => part.length * times

/-- The code points of a text before others. -/
def pointsBefore : Rope → List Nat → List Nat
  | .plain points, after => points ++ after
  | .joined first second, after => first.pointsBefore (second.pointsBefore after)
  | .repeated part times, after => Nat.repeat part.pointsBefore times after

/-- The code points of a text. -/
def points (rope : Rope) : List Nat := rope.pointsBefore []

theorem length_pointsBefore (rope : Rope) (after : List Nat) :
    (rope.pointsBefore after).length = rope.length + after.length := by
  induction rope generalizing after with
  | plain points => simp [pointsBefore, length]
  | joined first second ihfirst ihsecond =>
      simp only [pointsBefore, length, ihfirst, ihsecond]
      omega
  | repeated part times ih =>
      simp only [pointsBefore, length]
      induction times with
      | zero => simp [Nat.repeat]
      | succ times ihtimes =>
          simp only [Nat.repeat, ih, ihtimes, Nat.mul_succ]
          omega

/-- The length of a text is the number of its code points. -/
@[simp] theorem length_points (rope : Rope) : rope.points.length = rope.length := by
  simp [points, length_pointsBefore]

/-- The empty text. -/
def empty : Rope := .plain []

/-- The text of a string. -/
def ofString (text : String) : Rope := .plain (text.toList.map Char.toNat)

/-- A text many times over. -/
def times (rope : Rope) (times : Nat) : Rope :=
  if rope.length = 0 then empty else .repeated rope times

/-- Whether a code point is half of a surrogate pair. -/
def isSurrogate (point : Nat) : Bool := 0xD800 ≤ point && point ≤ 0xDFFF

/-- The characters of a text, if all of its code points are characters. -/
def characters? (rope : Rope) : Option (List Char) :=
  let points := rope.points
  if points.any isSurrogate then none else some (points.map Char.ofNat)

end Rope

end TinyC.Script
