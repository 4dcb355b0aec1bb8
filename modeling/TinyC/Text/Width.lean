import TinyC.Unicode.Emoji
import TinyC.Unicode.Width

/-!
# Display width

The number of columns that a text takes on a terminal.  Most characters take
one column, wide ones two and invisible ones none, but some take part in
sequences that are shown as one: emoji joined or followed by a skin tone,
letters that form a ligature, characters followed by a variation selector.

## Strategy

A text is measured from its end.  Each character is placed in front of what
follows it, and `Following` keeps the little about the following characters
that can still change a width: the beginning of a sequence that the next
character to the left may complete.
-/

namespace TinyC.Text

/-! ## What follows a character -/

/-- The last letter of a ligature, whose first letter may stand to its left. -/
inductive LigatureEnd
  | arabicAlef
  | hebrewLamed
  | khmerLetter
  | bugineseYa
  | bugineseVowelYa
  | tifinaghConsonant
  | tifinaghJoinedConsonant
  | lisuTone
  | oldTurkicI
  deriving DecidableEq

/-- The end of a sequence that characters to the left may extend. -/
inductive SequenceEnd
  /-- Nothing that a character to the left could change. -/
  | nothing
  /-- A line feed, which takes no second column after a carriage return. -/
  | lineFeed
  /-- A letter that may join with one before it, and whether a joiner already stands there. -/
  | ligature (last : LigatureEnd) (joined : Bool)
  | skinTone
  | oneIndicator
  | severalIndicators
  | emoji
  /-- An emoji with a joiner before it. -/
  | joinedEmoji
  /-- A keycap in front of a joined emoji. -/
  | joinedKeycap
  | joinedOneIndicator
  | joinedEvenIndicators
  | joinedOddIndicators
  /-- The vowel sign E of Kirat Rai, which may be the end of another vowel sign. -/
  | kiratVowelE
  /-- The vowel sign AI of Kirat Rai, which may be the end of another vowel sign. -/
  | kiratVowelAi
  /-- The end of a subdivision flag in front of a joined emoji, with the tags read so far. -/
  | joinedTags (letters digits : Nat)
  deriving DecidableEq

/-- The choice of form that a variation selector makes for the character before it. -/
inductive Selector
  | text
  | emoji
  deriving DecidableEq

/-- What follows a character, as far as it can change widths to the left. -/
structure Following where
  sequenceEnd : SequenceEnd
  selector : Option Selector
  deriving DecidableEq

namespace Following

/-- Nothing of influence follows. -/
def nothing : Following := ⟨.nothing, none⟩

/-- A sequence end without a selector before it. -/
def of (sequenceEnd : SequenceEnd) : Following := ⟨sequenceEnd, none⟩

/-- Whether a letter of a ligature follows. -/
def isLigature (following : Following) : Bool :=
  match following.sequenceEnd with
  | .ligature _ _ => true
  | _ => false

/-- Whether an emoji follows that is already joined to what stands before it. -/
def isJoinedEmoji (following : Following) : Bool :=
  following.sequenceEnd = .joinedEmoji || following.sequenceEnd = .joinedKeycap

/-- Puts the selector of the emoji form in front. -/
def selectEmoji (following : Following) : Following :=
  if following.isLigature || following.isJoinedEmoji then
    ⟨following.sequenceEnd, some .emoji⟩
  else ⟨.nothing, some .emoji⟩

/-- Puts the selector of the text form in front. -/
def selectText (following : Following) : Following :=
  if following.isLigature then ⟨following.sequenceEnd, some .text⟩ else ⟨.nothing, some .text⟩

/-- Forgets a selector that chose nothing. -/
def dropSelector (following : Following) : Following :=
  if following.isLigature then ⟨following.sequenceEnd, none⟩ else .nothing

end Following

/-! ## Classes of characters -/

/-- Whether the code point of a character lies between two others. -/
def isBetween (low high : UInt32) (c : Char) : Bool := low ≤ c.val && c.val ≤ high

/-- The letters of which flags consist. -/
def isIndicator : Char → Bool := isBetween 0x1F1E6 0x1F1FF

/-- The skin tones. -/
def isSkinTone : Char → Bool := isBetween 0x1F3FB 0x1F3FF

/-- The consonants of Tifinagh, of which two can be joined. -/
def isTifinaghConsonant (c : Char) : Bool := isBetween 0x2D31 0x2D65 c || c.val == 0x2D6F

/-- The forms of the Arabic letter Lam. -/
def isArabicLam (c : Char) : Bool :=
  Unicode.inRanges c.toNat
    [(0x644, 0x644), (0x6B5, 0x6B8), (0x76A, 0x76A), (0x8A6, 0x8A6), (0x8C7, 0x8C7)]

/-- The forms of the Arabic letter Alef, which joins with Lam. -/
def isArabicAlef (c : Char) : Bool :=
  Unicode.inRanges c.toNat
    [(0x622, 0x623), (0x625, 0x625), (0x627, 0x627), (0x671, 0x673), (0x675, 0x675),
      (0x773, 0x774), (0x870, 0x882)]

/-- Khmer letters that have a subscript form. -/
def isKhmerLetter (c : Char) : Bool :=
  Unicode.inRanges c.toNat
    [(0x1780, 0x1782), (0x1784, 0x1787), (0x1789, 0x178C), (0x178E, 0x1793), (0x1795, 0x1798),
      (0x179B, 0x179D), (0x17A0, 0x17A0), (0x17A2, 0x17A2), (0x17A7, 0x17A7), (0x17AB, 0x17AC),
      (0x17AF, 0x17AF)]

/-- Invisible characters that may stand inside a ligature. -/
def isLigatureTransparent (c : Char) : Bool :=
  Unicode.inRanges c.toNat
    [(0x34F, 0x34F), (0x17B4, 0x17B5), (0x180B, 0x180D), (0x180F, 0x180F), (0x200D, 0x200D),
      (0xFE00, 0xFE0F), (0xE0100, 0xE01EF)]

/-- The joiner of emoji and of letters. -/
def isJoiner (c : Char) : Bool := c.val == 0x200D

/-! ## One character -/

/-- The columns of a character by itself, and what it is to the characters before it. -/
def placeAlone (c : Char) : Int × Following :=
  if c.val == 0xFE0E then (0, ⟨.nothing, some .text⟩)
  else if c.val == 0xFE0F then (0, ⟨.nothing, some .emoji⟩)
  else if c.val == 0x5DC then (1, .of (.ligature .hebrewLamed false))
  else if isArabicAlef c then (1, .of (.ligature .arabicAlef false))
  else if isKhmerLetter c then (1, .of (.ligature .khmerLetter false))
  else if c.val == 0x17D8 then (3, .nothing)
  else if c.val == 0x1A10 then (1, .of (.ligature .bugineseYa false))
  else if isTifinaghConsonant c then (1, .of (.ligature .tifinaghConsonant false))
  else if isBetween 0xA4FC 0xA4FD c then (1, .of (.ligature .lisuTone false))
  else if c.val == 0x10C03 then (1, .of (.ligature .oldTurkicI false))
  else if c.val == 0x16D67 then (1, .of .kiratVowelE)
  else if c.val == 0x16D68 then (1, .of .kiratVowelAi)
  else if isIndicator c then (1, .of .oneIndicator)
  else if isSkinTone c then (2, .of .skinTone)
  else if Unicode.isEmojiPresentation c then (2, .of .emoji)
  else if Unicode.isZeroWidth c then (0, .nothing)
  else if Unicode.isWide c then (2, .nothing)
  else (1, .nothing)

/-- The columns of a character that continues a ligature to the left. -/
def placeInLigature? (c : Char) (last : LigatureEnd) (joined : Bool) : Option (Int × Following) :=
  if isJoiner c then some (0, .of (.ligature last true))
  else if isLigatureTransparent c then some (0, .of (.ligature last joined))
  else
    match last, joined with
    | .arabicAlef, false =>
        if isArabicLam c then some (0, .nothing)
        else if Unicode.isJoiningTransparent c then some (0, .of (.ligature .arabicAlef false))
        else none
    | .hebrewLamed, true => if c.val == 0x5D0 then some (0, .nothing) else none
    | .khmerLetter, _ => if c.val == 0x17D2 then some (-1, .nothing) else none
    | .bugineseYa, true =>
        if c.val == 0x1A17 then some (0, .of (.ligature .bugineseVowelYa true)) else none
    | .bugineseVowelYa, _ => if c.val == 0x1A15 then some (0, .nothing) else none
    | .tifinaghConsonant, joined =>
        if c.val == 0x2D7F then some (1, .of (.ligature .tifinaghJoinedConsonant true))
        else if joined && isTifinaghConsonant c then some (0, .nothing)
        else none
    | .tifinaghJoinedConsonant, _ => if isTifinaghConsonant c then some (-1, .nothing) else none
    | .lisuTone, _ => if isBetween 0xA4F8 0xA4FB c then some (0, .nothing) else none
    | .oldTurkicI, true => if c.val == 0x10C32 then some (0, .nothing) else none
    | _, _ => none

/-- The columns of a character that continues a sequence to the left, if it does. -/
def placeInSequence? (c : Char) : SequenceEnd → Option (Int × Following)
  | .nothing | .lineFeed => none
  | .ligature last joined => placeInLigature? c last joined
  | .skinTone =>
      if Unicode.isEmojiModifierBase c then some (0, .of .emoji)
      else if isJoiner c then some (0, .of .joinedEmoji)
      else none
  | .oneIndicator => if isIndicator c then some (1, .of .severalIndicators) else none
  | .severalIndicators =>
      if isIndicator c then some (1, .of .severalIndicators)
      else if isJoiner c then some (0, .of .joinedEmoji)
      else none
  | .emoji => if isJoiner c then some (0, .of .joinedEmoji) else none
  | .joinedEmoji =>
      if c.val == 0x20E3 then some (0, .of .joinedKeycap)
      else if isIndicator c then some (1, .of .joinedOneIndicator)
      else if isSkinTone c then some (0, .of .skinTone)
      else if c.val == 0xE007F then some (0, .of (.joinedTags 0 0))
      else if Unicode.isEmojiPresentation c then some (0, .of .emoji)
      else none
  | .joinedKeycap => none
  -- Of pairs from the left, the one at the joiner adds nothing, every other one two columns.
  | .joinedOneIndicator => if isIndicator c then some (-1, .of .joinedEvenIndicators) else none
  | .joinedEvenIndicators =>
      if isIndicator c then some (3, .of .joinedOddIndicators)
      else if isJoiner c then some (0, .of .joinedEmoji)
      else none
  | .joinedOddIndicators =>
      if isIndicator c then some (-1, .of .joinedEvenIndicators)
      else if isJoiner c then some (0, .of .joinedEmoji)
      else none
  | .kiratVowelE =>
      if c.val == 0x16D63 || c.val == 0x16D69 then some (0, .nothing)
      else if c.val == 0x16D67 then some (0, .of .kiratVowelAi)
      else if c.val == 0x16D68 then some (1, .of .kiratVowelE)
      else none
  | .kiratVowelAi => if c.val == 0x16D63 then some (0, .nothing) else none
  | .joinedTags letters digits =>
      if isBetween 0xE0061 0xE007A c && digits == 0 && letters < 6 then
        some (0, .of (.joinedTags (letters + 1) 0))
      else if isBetween 0xE0030 0xE0039 c && (letters ≤ 4 || 0 < digits) && digits < 3 then
        some (0, .of (.joinedTags letters (digits + 1)))
      else if c.val == 0x1F3F4 && (digits == 3 || (digits == 0 && 3 ≤ letters)) then
        some (0, .of .emoji)
      else none

/-- The columns of a character above U+00A0 before which no emoji selector stands. -/
def placeBefore (c : Char) (following : Following) : Int × Following :=
  if following = .nothing then placeAlone c
  else if c.val == 0xFE0F then (0, following.selectEmoji)
  else if c.val == 0xFE0E then (0, following.selectText)
  else if following.selector = some .text && Unicode.startsTextSequence c then (1, .nothing)
  else
    let following :=
      if following.selector = some .text then following.dropSelector else following
    (placeInSequence? c following.sequenceEnd).getD (placeAlone c)

/-- The columns that a character adds in front of what follows it, and what then follows the
character before it.  The columns are negative if the character shrinks what follows. -/
def place (c : Char) (following : Following) : Int × Following :=
  -- The emoji form takes two columns, or none where it is joined to what follows.
  if following.selector = some .emoji && Unicode.startsEmojiSequence c then
    (if following.isJoinedEmoji then 0 else 2, .of .emoji)
  else
    let following :=
      if following.selector = some .emoji then following.dropSelector else following
    if c.val ≤ 0xA0 then
      if c = '\n' then (1, .of .lineFeed)
      else if c = '\r' ∧ following = .of .lineFeed then (0, .nothing)
      else (1, .nothing)
    else placeBefore c following

/-! ## A whole text -/

/-- The columns of a text, and what it is to the characters before it. -/
def measure : List Char → Int × Following
  | [] => (0, .nothing)
  | c :: rest =>
      let (columns, following) := measure rest
      let (added, before) := place c following
      (columns + added, before)

/-- The number of columns that a text takes. -/
def width (text : List Char) : Nat := (measure text).1.toNat

end TinyC.Text
