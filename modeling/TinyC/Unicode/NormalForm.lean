import TinyC.Unicode.CombiningClass
import TinyC.Unicode.Decomposition

/-!
# Normal forms

Different rows of characters may spell the same word: a letter with a mark can
be one character or two, and some characters are mere variants of others.  The
normal form of a text, called NFKC by Unicode, is the same for all spellings.
It is made in three steps: every character is taken apart, marks are put in
order, and what can be composed is put together again.  Text of ASCII
characters is its own normal form.
-/

namespace TinyC.Unicode.NormalForm

/-! ## Syllables of Hangul -/

/-- The first syllable. -/
def syllableBase : Nat := 0xAC00

/-- The first letter that begins a syllable. -/
def leadBase : Nat := 0x1100

/-- The first vowel. -/
def vowelBase : Nat := 0x1161

/-- The code point before the first letter that ends a syllable.  It stands for none. -/
def tailBase : Nat := 0x11A7

/-- The number of letters that begin a syllable. -/
def leadCount : Nat := 19

/-- The number of vowels. -/
def vowelCount : Nat := 21

/-- The number of letters that end a syllable, none included. -/
def tailCount : Nat := 28

/-- The number of syllables. -/
def syllableCount : Nat := leadCount * vowelCount * tailCount

/-- The letters of a syllable. -/
def lettersOfSyllable (index : Nat) : List Nat :=
  let lead := leadBase + index / (vowelCount * tailCount)
  let vowel := vowelBase + index / tailCount % vowelCount
  let tail := index % tailCount
  [lead, vowel] ++ if tail = 0 then [] else [tailBase + tail]

/-- The syllable of two letters, or of a syllable without a last letter and one. -/
def syllable? (first second : Nat) : Option Nat :=
  let lead := first - leadBase
  let vowel := second - vowelBase
  let index := first - syllableBase
  let tail := second - tailBase
  if leadBase ≤ first ∧ lead < leadCount ∧ vowelBase ≤ second ∧ vowel < vowelCount then
    some (syllableBase + (lead * vowelCount + vowel) * tailCount)
  else if syllableBase ≤ first ∧ index < syllableCount ∧ index % tailCount = 0 ∧
      tailBase < second ∧ tail < tailCount then
    some (first + tail)
  else none

/-! ## Taking apart -/

/-- The largest number of times that a part has parts of its own. -/
def depth : Nat := 8

/-- The code points of which a code point is made, when the parts of some are given. -/
def decompose (parts? : Nat → Option (List Nat)) : (remaining : Nat) → (codePoint : Nat) → List Nat
  | 0, codePoint => [codePoint]
  | remaining + 1, codePoint =>
      if syllableBase ≤ codePoint ∧ codePoint - syllableBase < syllableCount then
        lettersOfSyllable (codePoint - syllableBase)
      else
        match parts? codePoint with
        | none => [codePoint]
        | some parts => parts.flatMap (decompose parts? remaining)

/-- The code points of which a character is made. -/
def partsOf (c : Char) : List Nat := decompose Decomposition.parts? depth c.toNat

/-! ## Putting in order -/

/-- A code point with its combining class. -/
structure Mark where
  codePoint : Nat
  combining : Nat

/-- A code point with the class that it has. -/
def Mark.of (codePoint : Nat) : Mark := ⟨codePoint, combiningClass codePoint⟩

/-- Adds a code point at the end of a text, given from its end: before marks of a higher class. -/
def place (mark : Mark) (reversed : List Mark) : List Mark :=
  let mayPass (other : Mark) : Bool := mark.combining ≠ 0 && mark.combining < other.combining
  reversed.takeWhile mayPass ++ mark :: reversed.dropWhile mayPass

/-- A text with its marks in order. -/
def arrange (codePoints : List Nat) : List Mark :=
  (codePoints.foldl (fun reversed codePoint => place (.of codePoint) reversed) []).reverse

/-! ## Putting together -/

/-- The code point made of two. -/
def compose? (first second : Nat) : Option Nat :=
  match syllable? first second with
  | some syllable => some syllable
  | none => Decomposition.composed? first second

/-- A text that is being composed: what is finished, from its end, the character that marks may
still join, and the marks after it that have not joined it, the last one first. -/
structure Progress where
  finished : List Nat := []
  base : Option Nat := none
  waiting : List Mark := []

/-- All of a text that has been composed so far, from its end. -/
def Progress.all (progress : Progress) : List Nat :=
  progress.waiting.map Mark.codePoint ++ progress.base.toList ++ progress.finished

/-- Whether no mark that waits stands between the base and a new mark of the given class. -/
def Progress.isOpenTo (progress : Progress) (combining : Nat) : Bool :=
  match progress.waiting with
  | [] => true
  | last :: _ => last.combining < combining

/-- Adds a code point to a text that is being composed. -/
def Progress.add (progress : Progress) (mark : Mark) : Progress :=
  let joined :=
    match progress.base with
    | some base => if progress.isOpenTo mark.combining then compose? base mark.codePoint else none
    | none => none
  match joined with
  | some codePoint => { progress with base := some codePoint }
  | none =>
      if mark.combining = 0 then { finished := progress.all, base := some mark.codePoint }
      else { progress with waiting := mark :: progress.waiting }

/-- A text whose marks are in order, composed. -/
def compose (marks : List Mark) : List Nat :=
  (marks.foldl Progress.add {}).all.reverse

/-! ## Normal forms -/

/-- Whether a character is one of the first 128. -/
def isAscii (c : Char) : Bool := c.val < 0x80

/-- The normal form of a text of characters that identifiers may have. -/
def ofText (text : String) : String :=
  if text.toList.all isAscii then text
  else
    String.ofList ((compose (arrange (text.toList.flatMap partsOf))).map Char.ofNat)

theorem ofText_of_ascii {text : String} (hascii : text.toList.all isAscii = true) :
    ofText text = text := by
  simp [ofText, hascii]

end TinyC.Unicode.NormalForm
