import TinyC.Report.Style

/-!
# Segments in a row

Segments are written one after the other, each with the codes of its style around
it.  So the text of one of them can be taken out of what is written, and what
stands before and after it does not depend on that text.
-/

namespace TinyC

namespace Segment

variable {color : Bool}

theorem write_append (color : Bool) (first second : List Segment) :
    write color (first ++ second) = write color first ++ write color second := by
  rw [write, List.map_append, String.join_append]
  rfl

theorem write_flatMap {α : Type} (color : Bool) (segmentsOf : α → List Segment) (items : List α) :
    write color (items.flatMap segmentsOf) =
      String.join (items.map fun item => write color (segmentsOf item)) := by
  induction items with
  | nil => rfl
  | cons item rest ih => rw [List.flatMap_cons, write_append, ih, List.map_cons, String.join_cons]

/-- The codes of a style stand around the text. -/
theorem exists_write_singleton (color : Bool) (style : Option Style) :
    ∃ before after, ∀ text, write color [⟨style, text⟩] = before ++ text ++ after := by
  have hplain : ∀ text, write false [⟨style, text⟩] = "" ++ text ++ "" := fun text => by
    simp [write]
  cases color with
  | false => exact ⟨"", "", hplain⟩
  | true =>
      cases style with
      | none => exact ⟨"", "", hplain⟩
      | some style => exact ⟨style.set, Style.reset, fun text => by simp [write, colored]⟩

/-- Segments of which one has a name in it are written with that name in one place. -/
theorem exists_write_name (color : Bool) (style : Option Style) (front back : List Segment)
    (left right : String) :
    ∃ before after, ∀ name,
      write color (front ++ ⟨style, left ++ name ++ right⟩ :: back) = before ++ name ++ after := by
  obtain ⟨opening, closing, hsegment⟩ := exists_write_singleton color style
  refine ⟨write color front ++ opening ++ left, right ++ closing ++ write color back,
    fun name => ?_⟩
  have hcons : ∀ segment : Segment, segment :: back = [segment] ++ back := fun _ => rfl
  rw [hcons, write_append, write_append, hsegment]
  simp only [String.append_assoc]

end Segment

end TinyC
