import TinyC.Proofs.Report.Rendering
import TinyC.Proofs.Session
import TinyC.Proofs.SourceText.Errors

/-!
# Reports of errors

The report of an error has one snippet, which covers what the error points at.
It is shown with the line of the error, the lines before and after it, and under
the line of the error signs that begin where the error is.

## Strategy

What an error points at is on one line and does not end it, so its line can be
cut there, also without a carriage return at the end of the line.  At the end of
the text this carriage return may stand before the error; what is shown of the
line then ends before it.
-/

namespace TinyC

variable {screen : Screen} {source : Source} {error : SourceError} {id : Nat}
  {head rest : List Char}

/-! ## The line of an error -/

namespace SourceError

/-- The label of the snippet in the report of an error. -/
def label : SourceError → String
  | .lex _ => "this character"
  | .grammar error => Report.labelOf error.found.kind

/-- The snippet in the report of an error. -/
def snippet (id : Nat) (error : SourceError) : Snippet := ⟨error.label, .primary, id, error.span⟩

theorem snippets_report (id : Nat) (error : SourceError) :
    (error.report id).snippets = [error.snippet id] := by
  cases error <;> rfl

/-- The snippet of an error starts on the line of the error. -/
theorem line_snippet (source : Source) (id : Nat) (error : SourceError) :
    (error.snippet id).line source = Text.lineFeedsBefore source.text error.offset := by
  cases error <;> rfl

/-- The text is cut at the line of the error, and the line where the error is. -/
structure IsOnLine (source : Source) (error : SourceError) (lead before after tail : List Char) :
    Prop where
  isAt : error.IsAt source.text.toList (lead ++ before) (after ++ tail)
  isLine : Text.IsLine source.text.toList (Text.lineFeedsBefore source.text error.offset) lead
    (before ++ (error.pointed ++ after)) tail

/-- What an error points at is on one line. -/
theorem IsAt.exists_isOnLine (hat : error.IsAt source.text.toList head rest) :
    ∃ lead before after tail, IsOnLine source error lead before after tail := by
  obtain ⟨lead, before, rfl, hlead, hbefore⟩ := Text.exists_start head
  obtain ⟨after, tail, rfl, hafter, htail⟩ := Text.exists_stop rest
  have hpointed : '\n' ∉ error.pointed := fun hmem => (hat.not_ends _ hmem).1 rfl
  refine ⟨lead, before, after, tail, hat, ?_, ?_, hlead, ?_, htail⟩
  · rw [hat.text_eq]
    simp
  · rw [Text.lineFeedsBefore_eq, hat.text_eq, ← hat.offset_eq, Text.upTo_append,
      List.count_append, List.count_eq_zero.2 hbefore, Nat.add_zero]
  · simp [hbefore, hpointed, hafter]

/-- The bounds of the snippet of an error are around what the error points at. -/
theorem IsAt.isPlaced (id : Nat) (hat : error.IsAt source.text.toList head rest) :
    (error.snippet id).IsPlaced source where
  start_le := by
    rw [snippet, hat.span_eq, ← hat.offset_eq, Source.byteLength, hat.text_eq,
      Text.byteLength_append]
    exact Nat.le_add_right _ _
  cut_start := by
    rw [snippet, hat.span_eq, ← hat.offset_eq]
    exact .inl (Text.isBoundary_iff.2 ⟨head, error.pointed ++ rest, hat.text_eq.symm, rfl⟩)
  cut_stop := by
    rw [snippet, hat.span_eq, ← hat.offset_eq]
    refine .inl (Text.isBoundary_iff.2 ⟨head ++ error.pointed, rest, ?_, by simp⟩)
    rw [hat.text_eq, List.append_assoc]

namespace IsOnLine

variable {lead before after tail : List Char}

/-- The snippet of an error starts as far from the beginning of its line as the error does. -/
theorem start_eq (honline : IsOnLine source error lead before after tail) (id : Nat) :
    (error.snippet id).span.start = Text.byteLength lead + Text.byteLength before := by
  rw [snippet, honline.isAt.span_eq, ← honline.isAt.offset_eq, Text.byteLength_append]

theorem lineStart_eq (honline : IsOnLine source error lead before after tail) (id : Nat) :
    (error.snippet id).lineStart source = Text.byteLength lead := by
  rw [Snippet.lineStart, line_snippet, Source.lineStart?_of_isLine honline.isLine,
    Option.getD_some]

/-- What the line shows before the error, which is all that is there unless the text ends with a
carriage return before the error. -/
theorem before_eq (honline : IsOnLine source error lead before after tail) (id : Nat) :
    (error.snippet id).before source =
      Text.upTo (Text.byteLength before) ((error.snippet id).lineText source) := by
  rw [Snippet.before, honline.lineStart_eq, honline.start_eq, Nat.add_sub_cancel_left]

/-- The signs stand under what the error points at. -/
theorem covered_eq (honline : IsOnLine source error lead before after tail) (id : Nat) :
    (error.snippet id).covered source = error.pointed := by
  have hspan : (error.snippet id).span.stop =
      Text.byteLength lead + (Text.byteLength before + Text.byteLength error.pointed) := by
    rw [snippet, honline.isAt.span_eq, ← honline.isAt.offset_eq, Text.byteLength_append,
      Nat.add_assoc]
  rw [Snippet.covered, honline.lineStart_eq, hspan, Nat.add_sub_cancel_left, honline.before_eq]
  by_cases hpointed : error.pointed = []
  · rw [hpointed, Text.byteLength_nil, Nat.add_zero, List.drop_length]
  · -- No carriage return ends what stands before the rest of the line.
    have hlast : ∀ last ∈ (before ++ error.pointed).getLast?, last ≠ '\r' := by
      intro last hlast
      rw [List.getLast?_append_of_ne_nil _ hpointed] at hlast
      exact (honline.isAt.not_ends last (List.mem_of_getLast? hlast)).2
    have hshown : (error.snippet id).lineText source =
        before ++ (error.pointed ++ Source.withoutEnd '\r' after) := by
      rw [Snippet.lineText, line_snippet, Source.line?_of_isLine honline.isLine, Option.getD_some,
        ← List.append_assoc, Source.withoutEnd_append_of_ne hlast, List.append_assoc]
    have hboth : Text.upTo (Text.byteLength before + Text.byteLength error.pointed)
        (before ++ (error.pointed ++ Source.withoutEnd '\r' after)) = before ++ error.pointed := by
      rw [← Text.byteLength_append, ← List.append_assoc, Text.upTo_append]
    rw [hshown, hboth, Text.upTo_append, List.drop_left]

/-- The heading of the report of an error gives the line of the error, and one more than the number
of bytes before the error on it. -/
theorem headingOf_eq (honline : IsOnLine source error lead before after tail) (id : Nat) :
    Excerpt.headingOf source (error.snippet id) =
      .heading source.name source.path (Text.lineFeedsBefore source.text error.offset + 1)
        (Text.byteLength before + 1) := by
  have hstart := honline.start_eq id
  have hplace : source.lineColumn? (error.snippet id).span.start = some
      (Text.lineFeedsBefore source.text error.offset + 1,
        (error.snippet id).span.start - Text.byteLength lead + 1) :=
    Source.lineColumn?_of_isLine honline.isLine (by omega) (by rw [Text.byteLength_append]; omega)
  rw [Excerpt.headingOf, hplace, hstart, Nat.add_sub_cancel_left]
  rfl

end IsOnLine

end SourceError

/-! ## The lines around an error -/

/-- Of a line, the one before and the one after it, those that the source has are shown. -/
theorem Snippet.positions_window {snippet : Snippet}
    (hstart : snippet.span.start ≤ source.byteLength) :
    (snippet.window 1 source).positions =
      ([snippet.line source, snippet.line source + 1, snippet.line source + 2].filter fun number =>
        0 < number ∧ number ≤ source.lineCount).map (· - 1) := by
  have hline := Snippet.line_lt_lineCount hstart
  rw [Span.positions, Span.length, Snippet.window, Excerpt.window, Snippet.mark]
  dsimp only
  generalize snippet.line source = line at hline ⊢
  generalize source.lineCount = count at hline ⊢
  -- The window is cut off above the first line and below the last one.
  cases line with
  | zero =>
      by_cases hlast : 2 ≤ count
      · simp [hlast, List.range'_succ, Nat.succ_le_of_lt hline]
      · obtain rfl : count = 1 := by omega
        rfl
  | succ line =>
      by_cases hlast : line + 3 ≤ count
      · have hlength : line + 1 + 1 + 1 - line = 3 := by omega
        simp [hlength, hlast, List.range'_succ, Nat.le_of_lt hline, Nat.succ_le_of_lt hline]
      · obtain rfl : count = line + 2 := by omega
        simp [List.range'_succ]

/-! ## What is shown of an error -/

namespace SourceError

/-- What the line of an error shows before it, if the text has the given characters there. -/
def shownBefore (source : Source) (error : SourceError) (before : List Char) : List Char :=
  Text.upTo (Text.byteLength before)
    ((source.line? (Text.lineFeedsBefore source.text error.offset)).getD [])

/-- The rows that show an error: the number of its line and how far it is from the beginning of
that, then the lines before, at and after it that the source has, and under its own line signs from
where it starts, at least one. -/
def rows (screen : Screen) (source : Source) (error : SourceError) (before : List Char) :
    List Row :=
  let number := Text.lineFeedsBefore source.text error.offset + 1
  let signs := Row.underline .primary (Row.columns screen (error.shownBefore source before))
    (max (Row.columns screen error.pointed) 1) error.label
  .heading source.name source.path number (Text.byteLength before + 1) ::
    ([number - 1, number, number + 1].filter fun other =>
      0 < other ∧ other ≤ source.lineCount).flatMap (fun other =>
        .line other ((source.line? (other - 1)).getD []) ::
          if other = number then [signs] else []) ++ [.blank]

/-- The rows of an error, with a field for the largest number of a line among them. -/
def segments (screen : Screen) (source : Source) (error : SourceError) (before : List Char) :
    List Segment :=
  (error.rows screen source before).flatMap (Row.segments {} .error
    (1 + Numeral.magnitude
      (min (Text.lineFeedsBefore source.text error.offset + 2) source.lineCount)))

/-- The rows of an error as lines of text. -/
def lines (screen : Screen) (source : Source) (error : SourceError) (before : List Char) : String :=
  let largest := min (Text.lineFeedsBefore source.text error.offset + 2) source.lineCount
  String.join ((error.rows screen source before).map (Row.text {} (toString largest).length))

theorem write_segments (screen : Screen) (source : Source) (error : SourceError)
    (before : List Char) :
    Segment.write false (error.segments screen source before) =
      error.lines screen source before := by
  rw [segments, ← Numeral.length_ofNat, Numeral.ofNat_eq_toString, Row.write_flatMap]
  exact congrArg String.join (List.map_congr_left fun row _ => Row.printed_eq_text ..)

namespace IsOnLine

variable {lead before after tail : List Char}

/-- The line of an error, the line before and the one after it are the rows of the error. -/
theorem rows_eq (screen : Screen) (honline : IsOnLine source error lead before after tail)
    (id : Nat) :
    Excerpt.headingOf source (error.snippet id) ::
        ((error.snippet id).window 1 source).positions.flatMap
          (source.lineRows screen [error.snippet id]) ++ [.blank] =
      error.rows screen source before := by
  have hindex := line_snippet source id error
  have hrow : (error.snippet id).row screen source =
      .underline .primary (Row.columns screen (error.shownBefore source before))
        (max (Row.columns screen error.pointed) 1) error.label := by
    rw [Snippet.row, honline.covered_eq, honline.before_eq, Snippet.lineText, hindex]
    rfl
  rw [honline.headingOf_eq, Snippet.positions_window (honline.isAt.isPlaced id).start_le,
    List.flatMap_map, rows, hindex]
  have hlines : ∀ other ∈ [Text.lineFeedsBefore source.text error.offset,
        Text.lineFeedsBefore source.text error.offset + 1,
        Text.lineFeedsBefore source.text error.offset + 2].filter (fun other =>
          0 < other ∧ other ≤ source.lineCount),
      source.lineRows screen [error.snippet id] (other - 1) =
        .line other ((source.line? (other - 1)).getD []) ::
          if other = Text.lineFeedsBefore source.text error.offset + 1 then
            [(error.snippet id).row screen source] else [] := by
    intro other hother
    obtain ⟨-, hbounds⟩ := List.mem_filter.1 hother
    have hpos : 0 < other := (of_decide_eq_true hbounds).1
    have hnumber : other - 1 + 1 = other := by omega
    have hsame : (error.snippet id).line source = other - 1 ↔
        other = Text.lineFeedsBefore source.text error.offset + 1 := by
      rw [hindex]
      omega
    rw [Source.lineRows, hnumber]
    by_cases hother : other = Text.lineFeedsBefore source.text error.offset + 1
    · simp [hother, hindex]
    · simp [hother, hsame.not.2 hother]
  rw [List.flatMap_congr hlines, hrow]
  rfl

/-- The report of an error is shown as its header, the rows of the error, and its notes, if the
field before the signs is not too wide. -/
theorem renderOn_report (honline : IsOnLine source error lead before after tail)
    {sources : List Source} (color : Bool) (hsource : sources[id]? = some source)
    (hfield : screen.hasField (Row.columns screen (error.shownBefore source before)) = true) :
    (error.report id).renderOn screen {} sources color = .ok (Segment.write color
      ((error.report id).header {} ++ error.segments screen source before ++
        (error.report id).noteSegments {})) := by
  have hindex := line_snippet source id error
  have hbefore : (error.snippet id).before source = error.shownBefore source before := by
    rw [honline.before_eq, Snippet.lineText, hindex]
    rfl
  have hfits : (error.snippet id).fits screen source = true := by
    rw [Snippet.fits, hbefore, hfield]
  have hwidth : (Excerpt.ofSnippets source [error.snippet id]
      ((error.snippet id).window 1 source)).fieldWidth =
        1 + Numeral.magnitude
          (min (Text.lineFeedsBefore source.text error.offset + 2) source.lineCount) := by
    have hlast := Snippet.line_lt_lineCount (honline.isAt.isPlaced id).start_le
    rw [Excerpt.fieldWidth, Excerpt.ofSnippets, Snippet.window, Excerpt.window, Snippet.mark]
    dsimp only
    rw [hindex] at hlast ⊢
    rw [Nat.max_eq_left (by omega)]
  have hsegments := Report.segments_of_single {} (snippets_report id error) hsource
    (honline.isAt.isPlaced id) hfits
  rw [Report.renderOn, hsegments, hwidth, honline.rows_eq, severity_report]
  rfl

end IsOnLine

end SourceError

namespace Session

/-- An error is reported and shown at its place in a source of the session. -/
structure ShowsError (screen : Screen) (color : Bool) (session : Session) (id : Nat)
    (name text : String) (error : SourceError) (lead before rest : List Char) : Prop where
  read : Program.ofText text = .error error
  reported : (session.script id).2 = session.reporting [error.report id]
  text_eq : text.toList = lead ++ (before ++ (error.pointed ++ rest))
  offset_eq : error.offset = Text.byteLength (lead ++ before)
  /-- What comes before the error on its line starts where the line does. -/
  starts : ∀ c ∈ lead.getLast?, c = '\n'
  before_on_line : '\n' ∉ before
  pointed_on_line : '\n' ∉ error.pointed
  snippets : (error.report id).snippets = [⟨error.label, .primary, id,
    ⟨Text.byteLength (lead ++ before), Text.byteLength (lead ++ (before ++ error.pointed))⟩⟩]
  /-- The screen needs a field as wide as what the line shows before the error. -/
  shown : screen.hasField
      (Row.columns screen (error.shownBefore (.ofText name text) before)) = true →
    (error.report id).renderOn screen {} session.sources color = .ok (Segment.write color
      ((error.report id).header {} ++ error.segments screen (.ofText name text) before ++
        (error.report id).noteSegments {}))
  /-- Without colour this is printed as lines of text. -/
  printed : screen.hasField
      (Row.columns screen (error.shownBefore (.ofText name text) before)) = true →
    (error.report id).renderOn screen {} session.sources false = .ok
      ((error.report id).firstLine ++ error.lines screen (.ofText name text) before ++
        (error.report id).noteLines {})

variable {session : Session} {name text : String}

/-- Every error is reported and shown at its place: where a source does not compile, one report is
made, whose snippet covers what the error points at, between characters and on one line, and the
report is shown with the lines around the error and signs under it. -/
theorem script_shows_error (screen : Screen) (color : Bool) {refusal : Refusal}
    (hsource : session.sources[id]? = some (.ofText name text))
    (hfails : (session.script id).1 = .error refusal) :
    ∃ error lead before rest,
      ShowsError screen color session id name text error lead before rest := by
  rw [script_of_source hsource] at hfails
  dsimp only [Source.ofText] at hfails
  cases hread : Program.ofText text with
  | ok program =>
      rw [hread] at hfails
      cases hfails
  | error error =>
      obtain ⟨head, rest, hat⟩ := SourceError.exists_isAt hread
      obtain ⟨lead, before, after, tail, honline⟩ :=
        @SourceError.IsAt.exists_isOnLine (.ofText name text) error head rest hat
      have hline := honline.isLine
      have hplace : error.IsAt text.toList (lead ++ before) (after ++ tail) := honline.isAt
      refine ⟨error, lead, before, after ++ tail, ?_⟩
      constructor
      case read => exact hread
      case reported =>
        rw [script_of_source hsource]
        dsimp only [Source.ofText]
        rw [hread]
      case text_eq => rw [hplace.text_eq, List.append_assoc]
      case offset_eq => exact hplace.offset_eq.symm
      case starts => exact hline.starts
      case before_on_line => exact fun hmem => hline.not_mem (List.mem_append_left _ hmem)
      case pointed_on_line => exact fun hmem => (hplace.not_ends _ hmem).1 rfl
      case snippets =>
        rw [SourceError.snippets_report, SourceError.snippet, hplace.span_eq, ← hplace.offset_eq,
          ← List.append_assoc, Text.byteLength_append (lead ++ before)]
      case shown => exact fun hfield => honline.renderOn_report color hsource hfield
      case printed =>
        intro hfield
        rw [honline.renderOn_report false hsource hfield, Segment.write_append,
          Segment.write_append, Report.write_header, SourceError.write_segments,
          Report.write_noteSegments]

/-- A literal over two lines stands where a semicolon is missing. -/
def misplacedLiteral : String :=
  "int f() \x7b\x7d\r\nint g() \x7b\r\n\treturn é \"a\nb\";\r\n\x7d"

theorem script_shows_error_literal :
    let session : Session :=
      ⟨[.ofText "first" "", .ofText "literal" misplacedLiteral], []⟩
    let screen : Screen := ⟨Text.width, none⟩
    let error : SourceError := .grammar ⟨.tokenAt .semicolon .afterReturn, ⟨.string, "a\nb", 34⟩⟩
    (session.sources[1]? = some (.ofText "literal" misplacedLiteral) ∧
      (session.script 1).1 = .error .hadErrors) ∧
    (∃ lead before rest,
      ShowsError screen true session 1 "literal" misplacedLiteral error lead before rest) ∧
    (∃ shown, (error.report 1).renderOn screen {} session.sources true = .ok shown) ∧
    (error.report 1).renderOn screen {} session.sources false =
      .ok ("Error: expected `;` after a return statement\n" ++ "In literal:3:12\n" ++
        "2 │ int g() \x7b\n" ++ "3 │     return é \"a\n" ++
        "  │               ^ found string literal\n" ++ "4 │ b\";\n" ++ "\n" ++
        "= note: found STRING 'a\nb' at offset 34\n") := by
  intro session screen error
  have hsource : session.sources[1]? = some (.ofText "literal" misplacedLiteral) := rfl
  have hread : Program.ofText misplacedLiteral = .error error := by decide +kernel
  have hfails : (session.script 1).1 = .error .hadErrors := by
    rw [script_of_source hsource]
    dsimp only [Source.ofText]
    rw [hread]
  obtain ⟨found, lead, before, rest, hshows⟩ := script_shows_error screen true hsource hfails
  obtain rfl : error = found := Except.error.inj (hread.symm.trans hshows.read)
  exact ⟨⟨hsource, hfails⟩, ⟨lead, before, rest, hshows⟩, ⟨_, hshows.shown rfl⟩, by decide +kernel⟩

end Session

end TinyC
