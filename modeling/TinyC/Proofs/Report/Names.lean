import TinyC.Proofs.Report.Errors
import TinyC.Proofs.Report.Segments

/-!
# Names of sources in reports

The same text can be handed over under different names.  The report of an error
in it shows the name once, in the heading of the lines around the error, and the
warning of a program that starts nowhere shows it once in its message.  All else
that is shown is a matter of the text alone.

## Strategy

The name of a source is read by the heading only: the lines, the marks and the
width of the field for line numbers are looked up in the text.  Segments are
written one after the other, so what comes before and after the name can be
taken out of them.
-/

namespace TinyC

variable {color : Bool} {text : String} {error : SourceError}

/-! ## Errors -/

namespace SourceError

/-- The number of columns that the text before an error on its line counts for. -/
def columnsBefore (text : String) (error : SourceError) : Nat :=
  Row.columns .standard ((error.snippet 0).before (.ofText "" text))

/-- The line and the column of an error, as they stand after the name of the source. -/
def place (text : String) (error : SourceError) (before : List Char) : String :=
  ":" ++ Numeral.ofNat (Text.lineFeedsBefore text error.offset + 1) ++ ":" ++
    Numeral.ofNat (Text.byteLength before + 1) ++ "\n"

/-- The heading has the name of the source, and the segments after it do not depend on it. -/
theorem segments_ofText (screen : Screen) (name text : String) (error : SourceError)
    (before : List Char) :
    error.segments screen (.ofText name text) before =
      ⟨some (Theme.subtle {}), "In " ++ name ++ error.place text before⟩ ::
        (error.segments screen (.ofText "" text) before).tail := by
  rw [segments, segments, rows, rows, place, List.cons_append, List.cons_append, List.flatMap_cons,
    List.flatMap_cons]
  simp only [Row.segments, Segment.styled, Source.ofText, Option.map_none, Option.getD_none,
    List.singleton_append, List.tail_cons, String.append_assoc, String.empty_append]
  rfl

/-- An error is shown with the name of the source in one place, unless it is too far to the right
for the screen. -/
theorem exists_render (color : Bool) (herror : Program.ofText text = .error error)
    (hcolumns : error.columnsBefore text ≤ 65535) :
    ∃ before after, ∀ name,
      (error.report 0).render {} [.ofText name text] color = .ok (before ++ name ++ after) := by
  obtain ⟨head, rest, hat⟩ := exists_isAt herror
  obtain ⟨lead, front, back, tail, honline⟩ :=
    @IsAt.exists_isOnLine (.ofText "" text) error head rest hat
  -- Where the error is has nothing to do with the name.
  have hnamed : ∀ name, IsOnLine (.ofText name text) error lead front back tail := fun name =>
    ⟨honline.isAt, honline.isLine⟩
  have hfield : ∀ name, Screen.standard.hasField
      (Row.columns .standard (error.shownBefore (.ofText name text) front)) = true := by
    intro name
    rw [columnsBefore, honline.before_eq, Snippet.lineText, line_snippet] at hcolumns
    exact decide_eq_true hcolumns
  obtain ⟨before, after, hwritten⟩ := Segment.exists_write_name color (some (Theme.subtle {}))
    ((error.report 0).header {}) ((error.segments .standard (.ofText "" text) front).tail ++
      (error.report 0).noteSegments {}) "In " (error.place text front)
  refine ⟨before, after, fun name => ?_⟩
  have hsource : [Source.ofText name text][0]? = some (.ofText name text) := rfl
  rw [Report.render, (hnamed name).renderOn_report color hsource (hfield name), segments_ofText,
    ← hwritten, List.append_assoc, List.cons_append]

end SourceError

/-! ## Warnings -/

/-- The warning of a program that starts nowhere is always shown, with the name of the source in
one place. -/
theorem Report.exists_render_ofMissingMain (color : Bool) :
    ∃ before after, ∀ name sources,
      (Report.ofMissingMain name).render {} sources color = .ok (before ++ name ++ after) := by
  let kind : Segment := .styled (Theme.severity {} .warning) (Severity.name .warning ++ ":")
  obtain ⟨before, after, hwritten⟩ := Segment.exists_write_name color none [kind]
    ((Report.ofMissingMain "").noteSegments {}) " `" "` has no `main` function\n"
  refine ⟨before, after, fun name sources => ?_⟩
  have hmessage : " " ++ ("`" ++ name ++ "` has no `main` function") ++ "\n" =
      " `" ++ name ++ "` has no `main` function\n" := by
    rw [← String.toList_inj]
    simp
  rw [← hwritten, ← hmessage]
  rfl

theorem Session.mapM_render_warnings {name shown : String} {program : Program}
    {sources : List Source}
    (hshown : (Report.ofMissingMain name).render {} sources color = .ok shown) :
    (Session.warnings (.ofText name text) program).mapM (Report.render {} sources color) =
      .ok (if program.hasMain then [] else [shown]) := by
  rw [Session.warnings]
  by_cases hmain : program.hasMain = true
  · rw [if_pos hmain, if_pos hmain]
    rfl
  · rw [if_neg hmain, if_neg hmain, List.mapM_cons]
    dsimp only [Source.ofText]
    rw [hshown]
    rfl

end TinyC
