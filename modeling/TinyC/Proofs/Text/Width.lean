import TinyC.Text.Width

/-!
# Columns of texts

A character can take columns away from what follows it, where the two become one
sign.  It never takes away more than there are, so the columns of a text are
counted without loss (`natCast_width`).  Blanks stand by themselves: what is
before a blank and what is after it do not influence each other, and letters,
digits and signs of ASCII take one column each.

## Strategy

Of the beginnings of sequences that a character to the left can still complete,
some have a column that it may take away.  `SequenceEnd.least` says which, and
that a text has at least these columns is kept by every character put in front of
it, one rule of placing after the other.
-/

namespace TinyC.Text

variable {c : Char} {following : Following} {front back other text : List Char}

/-! ## Columns that can be taken away -/

/-- The columns that a character to the left can take away. -/
def SequenceEnd.least : SequenceEnd → Int
  | .ligature _ _ | .joinedOneIndicator | .joinedOddIndicators => 1
  | _ => 0

theorem SequenceEnd.least_nonneg (sequenceEnd : SequenceEnd) : 0 ≤ sequenceEnd.least := by
  cases sequenceEnd <;> simp [least]

/-- A placement after which there are as many columns as can then be taken away. -/
def Leaves (available : Int) (placed : Int × Following) : Prop :=
  placed.2.sequenceEnd.least ≤ available + placed.1

theorem Leaves.mono {first second : Int} {placed : Int × Following} (hplaced : Leaves first placed)
    (hle : first ≤ second) : Leaves second placed :=
  Int.le_trans hplaced (Int.add_le_add_right hle _)

theorem leaves_ite {available : Int} {condition : Prop} [Decidable condition]
    {yes no : Int × Following} (hyes : Leaves available yes) (hno : Leaves available no) :
    Leaves available (if condition then yes else no) := by
  split <;> assumption

theorem leaves_placeAlone (c : Char) : Leaves 0 (placeAlone c) := by
  unfold placeAlone
  repeat' refine leaves_ite ?_ ?_
  all_goals simp [Leaves, SequenceEnd.least, Following.of, Following.nothing]

/-- A ligature has a column, which its first letter may take away. -/
theorem leaves_placeInLigature {last : LigatureEnd} {joined : Bool} {placed : Int × Following}
    (hplaced : placeInLigature? c last joined = some placed) : Leaves 1 placed := by
  unfold placeInLigature? at hplaced
  repeat' split at hplaced
  all_goals first
    | cases hplaced; done
    | obtain rfl := Option.some.inj hplaced
      simp [Leaves, SequenceEnd.least, Following.of, Following.nothing]

theorem leaves_placeInSequence {sequenceEnd : SequenceEnd} {placed : Int × Following}
    (hplaced : placeInSequence? c sequenceEnd = some placed) :
    Leaves sequenceEnd.least placed := by
  cases sequenceEnd with
  | ligature last joined => exact leaves_placeInLigature hplaced
  | _ =>
      simp only [placeInSequence?] at hplaced
      repeat' split at hplaced
      all_goals first
        | cases hplaced; done
        | obtain rfl := Option.some.inj hplaced
          simp [Leaves, SequenceEnd.least, Following.of, Following.nothing]

/-- Without its selector a text has no more columns to take away. -/
theorem least_dropSelector (following : Following) :
    following.dropSelector.sequenceEnd.least ≤ following.sequenceEnd.least := by
  unfold Following.dropSelector
  split
  · exact Int.le_refl _
  · exact SequenceEnd.least_nonneg _

theorem least_ite_dropSelector (condition : Prop) [Decidable condition] (following : Following) :
    (if condition then following.dropSelector else following).sequenceEnd.least ≤
      following.sequenceEnd.least := by
  split
  · exact least_dropSelector following
  · exact Int.le_refl _

theorem leaves_selectEmoji (following : Following) :
    Leaves following.sequenceEnd.least (0, following.selectEmoji) := by
  unfold Following.selectEmoji
  split
  · exact Int.le_of_eq (Int.add_zero _).symm
  · simpa [Leaves, SequenceEnd.least] using SequenceEnd.least_nonneg _

theorem leaves_selectText (following : Following) :
    Leaves following.sequenceEnd.least (0, following.selectText) := by
  unfold Following.selectText
  split
  · exact Int.le_of_eq (Int.add_zero _).symm
  · simpa [Leaves, SequenceEnd.least] using SequenceEnd.least_nonneg _

theorem leaves_of_nonneg {available columns : Int} (havailable : 0 ≤ available)
    (hcolumns : 0 ≤ columns) (selector : Option Selector) {sequenceEnd : SequenceEnd}
    (hleast : sequenceEnd.least = 0) : Leaves available (columns, ⟨sequenceEnd, selector⟩) := by
  simp only [Leaves, hleast]
  omega

theorem leaves_placeBefore (c : Char) (following : Following) :
    Leaves following.sequenceEnd.least (placeBefore c following) := by
  have hnonneg := following.sequenceEnd.least_nonneg
  unfold placeBefore
  refine leaves_ite ((leaves_placeAlone c).mono hnonneg) ?_
  refine leaves_ite (leaves_selectEmoji following) ?_
  refine leaves_ite (leaves_selectText following) ?_
  refine leaves_ite (leaves_of_nonneg hnonneg (by decide) none rfl) ?_
  dsimp only
  refine Leaves.mono ?_ (least_ite_dropSelector (following.selector = some .text) following)
  generalize (if following.selector = some .text then following.dropSelector else following) = seen
  cases hplaced : placeInSequence? c seen.sequenceEnd with
  | none => exact (leaves_placeAlone c).mono seen.sequenceEnd.least_nonneg
  | some placed => exact leaves_placeInSequence hplaced

/-- No character takes away more columns than there are. -/
theorem leaves_place (c : Char) (following : Following) :
    Leaves following.sequenceEnd.least (place c following) := by
  have hnonneg := following.sequenceEnd.least_nonneg
  unfold place
  refine leaves_ite (leaves_of_nonneg hnonneg ?_ none rfl) ?_
  · split <;> decide
  dsimp only
  have hdropped := least_ite_dropSelector (following.selector = some .emoji) following
  refine leaves_ite ?_ ((leaves_placeBefore c _).mono hdropped)
  refine leaves_ite (leaves_of_nonneg hnonneg (by decide) none rfl) ?_
  exact leaves_ite (leaves_of_nonneg hnonneg (by decide) none rfl)
    (leaves_of_nonneg hnonneg (by decide) none rfl)

/-- A text has the columns that can be taken away. -/
theorem least_le_measure (text : List Char) :
    (measure text).2.sequenceEnd.least ≤ (measure text).1 := by
  induction text with
  | nil => exact Int.le_refl _
  | cons c rest ih =>
      have hplaced := (leaves_place c (measure rest).2).mono ih
      exact hplaced

/-- The columns of a text are counted without loss. -/
theorem natCast_width (text : List Char) : (width text : Int) = (measure text).1 :=
  Int.toNat_of_nonneg (Int.le_trans (SequenceEnd.least_nonneg _) (least_le_measure text))

/-! ## Characters of one column -/

/-- Below the signs of Latin, what follows matters to line endings and to the beginnings of emoji
only. -/
theorem place_of_low (hlow : c.val ≤ 0xA0) (hemoji : Unicode.startsEmojiSequence c = false)
    (hfeed : c ≠ '\n') (hreturn : c ≠ '\r') (following : Following) :
    place c following = (1, .nothing) := by
  simp [place, hemoji, hlow, hfeed, hreturn]

theorem place_blank (following : Following) : place ' ' following = (1, .nothing) :=
  place_of_low (by decide) (by decide) (by decide) (by decide) following

theorem place_tab (following : Following) : place '\t' following = (1, .nothing) :=
  place_of_low (by decide) (by decide) (by decide) (by decide) following

/-- Whether a character is a letter, a digit, a sign or the blank of ASCII. -/
def isPrinting (c : Char) : Bool := ' ' ≤ c && c ≤ '~'

theorem isPrinting_blanks (count : Nat) : ∀ c ∈ List.replicate count ' ', isPrinting c = true := by
  intro c hc
  rw [(List.mem_replicate.1 hc).2]
  decide

theorem place_of_isPrinting (hc : isPrinting c = true) : place c .nothing = (1, .nothing) := by
  simp only [isPrinting, Bool.and_eq_true, decide_eq_true_eq, Char.le_def] at hc
  obtain ⟨hblank, htilde⟩ := hc
  have hlow : c.val ≤ 0xA0 := UInt32.le_trans htilde (by decide)
  have hfeed : c ≠ '\n' := by
    rintro rfl
    exact absurd hblank (by decide)
  have hreturn : c ≠ '\r' := by
    rintro rfl
    exact absurd hblank (by decide)
  simp [place, Following.nothing, hlow, hfeed, hreturn]

/-- The characters of ASCII take one column each. -/
theorem measure_of_isPrinting (htext : ∀ c ∈ text, isPrinting c = true) :
    measure text = ((text.length : Int), .nothing) := by
  induction text with
  | nil => rfl
  | cons c rest ih =>
      have hrest := ih fun other hother => htext other (List.mem_cons_of_mem _ hother)
      rw [measure, hrest]
      dsimp only
      rw [place_of_isPrinting (htext c List.mem_cons_self)]
      simp

/-! ## Texts side by side -/

/-- What follows a text changes its columns only through the sequence that it begins with. -/
theorem measure_append_congr (front : List Char) (hsame : (measure back).2 = (measure other).2) :
    (measure (front ++ back)).2 = (measure (front ++ other)).2 ∧
      (measure (front ++ back)).1 + (measure other).1 =
        (measure (front ++ other)).1 + (measure back).1 := by
  induction front with
  | nil => exact ⟨hsame, Int.add_comm _ _⟩
  | cons c rest ih =>
      obtain ⟨hfollowing, hcolumns⟩ := ih
      simp only [List.cons_append, measure, hfollowing, true_and]
      omega

/-- A text after which nothing can be completed adds its own columns. -/
theorem width_append (front : List Char) (hback : (measure back).2 = .nothing) :
    width (front ++ back) = width front + width back := by
  have hcolumns := (@measure_append_congr back [] front hback).2
  rw [List.append_nil, ← natCast_width, ← natCast_width, ← natCast_width, ← natCast_width] at hcolumns
  have hnil : width [] = 0 := rfl
  omega

/-- A blank keeps apart what is before it and what is after it. -/
theorem width_append_blank (front back : List Char) :
    width (front ++ ' ' :: back) = width (front ++ [' ']) + width back := by
  have hblank : ∀ after, measure (' ' :: after) = ((measure after).1 + 1, .nothing) := by
    intro after
    rw [measure]
    dsimp only
    rw [place_blank]
  have hwidth : ∀ after, width (' ' :: after) = width after + 1 := by
    intro after
    have hcolumns := congrArg Prod.fst (hblank after)
    rw [← natCast_width, ← natCast_width] at hcolumns
    omega
  have hnil : width [] = 0 := rfl
  rw [width_append front (by rw [hblank]), width_append front (by rw [hblank]), hwidth, hwidth, hnil]
  omega

theorem width_of_isPrinting (htext : ∀ c ∈ text, isPrinting c = true) :
    width text = text.length := by
  rw [width, measure_of_isPrinting htext, Int.toNat_natCast]

theorem width_append_of_isPrinting (front : List Char)
    (htext : ∀ c ∈ text, isPrinting c = true) :
    width (front ++ text) = width front + text.length := by
  rw [width_append front (by rw [measure_of_isPrinting htext]), width_of_isPrinting htext]

end TinyC.Text
