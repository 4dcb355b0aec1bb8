import TinyC.Proofs.Report.Gutters
import TinyC.Proofs.Report.Terminal

/-!
# Reports with colour

Colour changes nothing but colour.  A report with colour is the report without it
once the codes are taken out, and it is shown if and only if the other is.  What it
takes from outside as it is, the message, the lines of the sources and the notes,
is in plain text, and so is whatever comes after the report.

## Strategy

A report is a list of segments, which are shown in their styles one after the
other, provided that no text has the beginning of a code in it.  This is the case
as soon as no text that the report is made from has one, since what is added to
them is numbers, blanks and fixed words.  The segments without a style are the
texts in question.
-/

namespace TinyC

variable {screen : Screen} {theme : Theme} {severity : Severity} {sources : List Source}
  {source : Source} {report : Report} {fieldWidth : Nat}

/-! ## Texts without codes -/

namespace Terminal

theorem isClear_empty : IsClear "" := by decide

theorem isClear_append {first second : String} :
    IsClear (first ++ second) ↔ IsClear first ∧ IsClear second := by
  simp [IsClear, not_or]

theorem isClear_ofNat (value : Nat) : IsClear (Numeral.ofNat value) := by
  intro hmem
  exact absurd (Numeral.isParameter_ofNat value _ hmem) (by decide)

theorem isClear_spaces (count : Nat) : IsClear (Row.spaces count) := by
  intro hmem
  rw [Row.spaces, String.toList_ofList] at hmem
  exact absurd (List.mem_replicate.1 hmem).2 (by decide)

theorem isClear_repeated {text : String} (htext : IsClear text) (count : Nat) :
    IsClear (Row.repeated text count) := by
  induction count with
  | zero => exact isClear_empty
  | succ count ih =>
      rw [Row.repeated] at ih
      rw [Row.repeated, List.replicate_succ, String.join_cons]
      exact isClear_append.2 ⟨htext, ih⟩

/-- Blanks in the place of tabs do not begin a code. -/
theorem isClear_shown {text : List Char} (htext : '\x1b' ∉ text) :
    IsClear (String.ofList (Row.shown text)) := by
  intro hmem
  rw [String.toList_ofList] at hmem
  obtain ⟨c, hc, hmem⟩ := List.mem_flatMap.1 hmem
  split at hmem
  · exact absurd hmem (by decide)
  · exact htext (List.mem_singleton.1 hmem ▸ hc)

end Terminal

/-- No sign of the theme has the beginning of a code. -/
structure Theme.IsClear (theme : Theme) : Prop where
  gutter : Terminal.IsClear theme.gutter
  underline : Terminal.IsClear theme.underline
  afterUnderline : Terminal.IsClear theme.afterUnderline
  beforeNote : Terminal.IsClear theme.beforeNote

/-- No text of the source has the beginning of a code. -/
structure Source.IsClear (source : Source) : Prop where
  name : Terminal.IsClear source.name
  path : ∀ path ∈ source.path, Terminal.IsClear path
  text : Terminal.IsClear source.text

/-- No text of the report has the beginning of a code. -/
structure Report.IsClear (report : Report) : Prop where
  message : ∀ message ∈ report.message, Terminal.IsClear message
  labels : ∀ snippet ∈ report.snippets, Terminal.IsClear snippet.label
  notes : ∀ note ∈ report.notes, Terminal.IsClear note

/-- A line of a source is a part of its text. -/
theorem Source.IsClear.line (hsource : source.IsClear) (line : Nat) :
    '\x1b' ∉ (source.line? line).getD [] := by
  rcases Nat.lt_or_ge line source.lineCount with hline | hline
  · obtain ⟨head, text, tail, hline⟩ := Source.exists_isLine_of_lt hline
    rw [Source.line?_of_isLine hline, Option.getD_some]
    intro hmem
    have htext := (Source.withoutEnd_isPrefix '\r' text).subset hmem
    refine hsource.text ?_
    rw [hline.text_eq]
    exact List.mem_append_right _ (List.mem_append_left _ htext)
  · rw [Source.line?_eq_none hline]
    exact List.not_mem_nil

/-! ## Rows -/

namespace Row

/-- No text of the row has the beginning of a code. -/
def IsClear : Row → Prop
  | .heading name path _ _ => Terminal.IsClear name ∧ ∀ file ∈ path, Terminal.IsClear file
  | .line _ text => '\x1b' ∉ text
  | .underline _ _ _ label => Terminal.IsClear label
  | .blank => True

theorem isClear_gutter (htheme : theme.IsClear) {field : String} (hfield : Terminal.IsClear field) :
    Terminal.IsClear (gutter theme field).text := by
  have hblank : Terminal.IsClear " " := by decide
  simp only [gutter, Segment.styled, Terminal.isClear_append]
  exact ⟨⟨⟨hfield, hblank⟩, htheme.gutter⟩, hblank⟩

theorem isClear_of_mem_segments (htheme : theme.IsClear) {row : Row} (hrow : row.IsClear) :
    ∀ segment ∈ row.segments theme severity fieldWidth, Terminal.IsClear segment.text := by
  have hfeed : Terminal.IsClear "\n" := by decide
  cases row with
  | heading name path line column =>
      obtain ⟨hname, hpath⟩ := hrow
      have hplace : Terminal.IsClear
          (":" ++ Numeral.ofNat line ++ ":" ++ Numeral.ofNat column) := by
        have hcolon : Terminal.IsClear ":" := by decide
        simp only [Terminal.isClear_append]
        exact ⟨⟨⟨hcolon, Terminal.isClear_ofNat _⟩, hcolon⟩, Terminal.isClear_ofNat _⟩
      refine List.forall_mem_singleton.2 ?_
      generalize ":" ++ Numeral.ofNat line ++ ":" ++ Numeral.ofNat column = place at hplace
      simp only [Segment.styled, Terminal.isClear_append]
      refine ⟨⟨⟨⟨by decide, hname⟩, hplace⟩, ?_⟩, hfeed⟩
      cases path with
      | none => exact Terminal.isClear_empty
      | some path =>
          simp only [Option.map_some, Option.getD_some, Terminal.isClear_append]
          exact ⟨⟨⟨by decide, hpath path rfl⟩, hplace⟩, by decide⟩
  | line number text =>
      have haligned : Terminal.IsClear (aligned fieldWidth number) := by
        rw [aligned_eq]
        exact Terminal.isClear_append.2 ⟨Terminal.isClear_spaces _, Terminal.isClear_ofNat _⟩
      refine List.forall_mem_cons.2 ⟨isClear_gutter htheme haligned, List.forall_mem_singleton.2 ?_⟩
      exact Terminal.isClear_append.2 ⟨Terminal.isClear_shown hrow, hfeed⟩
  | underline role offset count label =>
      refine List.forall_mem_cons.2
        ⟨isClear_gutter htheme (Terminal.isClear_spaces _), List.forall_mem_singleton.2 ?_⟩
      simp only [Segment.styled, Terminal.isClear_append]
      exact ⟨⟨⟨⟨Terminal.isClear_spaces _, Terminal.isClear_repeated htheme.underline _⟩,
        htheme.afterUnderline⟩, hrow⟩, hfeed⟩
  | blank => exact List.forall_mem_singleton.2 hfeed

end Row

/-! ## Segments of a report -/

theorem View.isClear_of_mem_rows {view : View} (hsource : view.source.IsClear)
    (hlabels : ∀ snippet ∈ view.snippets, Terminal.IsClear snippet.label)
    (stretch : Group Snippet) : ∀ row ∈ view.rows screen stretch, row.IsClear := by
  rw [rows, List.forall_mem_append, List.forall_mem_append]
  refine ⟨⟨?_, ?_⟩, List.forall_mem_singleton.2 trivial⟩
  · intro row hrow
    obtain ⟨first, -, rfl⟩ := Option.map_eq_some_iff.1 (Option.mem_toList.1 hrow)
    exact ⟨hsource.name, hsource.path⟩
  · intro row hrow
    obtain ⟨line, -, hrow⟩ := List.mem_flatMap.1 hrow
    rcases List.mem_cons.1 hrow with rfl | hrow
    · exact hsource.line line
    · obtain ⟨snippet, hsnippet, rfl⟩ := List.mem_map.1 hrow
      exact hlabels snippet (List.mem_of_mem_filter hsnippet)

namespace Report

theorem isClear_of_mem_views (htheme : theme.IsClear) (hsources : ∀ source ∈ sources, source.IsClear)
    (hreport : report.IsClear) {view : View} (hview : view ∈ report.views theme sources) :
    ∀ segment ∈ view.segments screen theme severity, Terminal.IsClear segment.text := by
  have hisOf := View.isOf_of_mem hview
  have hsource := hsources view.source (List.mem_of_getElem? hisOf.source)
  have hlabels : ∀ snippet ∈ view.snippets, Terminal.IsClear snippet.label := fun snippet hsnippet =>
    hreport.labels snippet (hisOf.start_le hsnippet).1
  intro segment hsegment
  obtain ⟨stretch, -, hsegment⟩ := List.mem_flatMap.1 hsegment
  obtain ⟨row, hrow, hsegment⟩ := List.mem_flatMap.1 hsegment
  exact Row.isClear_of_mem_segments htheme
    (View.isClear_of_mem_rows hsource hlabels stretch row hrow) segment hsegment

theorem isClear_of_mem_header (hreport : report.IsClear) :
    ∀ segment ∈ report.header theme, Terminal.IsClear segment.text := by
  have hfeed : Terminal.IsClear "\n" := by decide
  refine List.forall_mem_cons.2 ⟨?_, List.forall_mem_singleton.2 ?_⟩
  · simp only [Segment.styled]
    cases report.severity <;> decide
  · refine Terminal.isClear_append.2 ⟨?_, hfeed⟩
    cases hmessage : report.message with
    | none => exact Terminal.isClear_empty
    | some message => exact Terminal.isClear_append.2 ⟨by decide, hreport.message message hmessage⟩

theorem isClear_of_mem_noteSegments (htheme : theme.IsClear) (hreport : report.IsClear) :
    ∀ segment ∈ report.noteSegments theme, Terminal.IsClear segment.text := by
  intro segment hsegment
  obtain ⟨note, hnote, hsegment⟩ := List.mem_flatMap.1 hsegment
  rcases List.mem_pair.1 hsegment with rfl | rfl
  · exact htheme.beforeNote
  · simp only [Segment.plain, Terminal.isClear_append]
    exact ⟨⟨by decide, hreport.notes note hnote⟩, by decide⟩

/-! ## Plain texts -/

/-- The texts that a report shows as they are given to it, in order: its message, the lines of the
sources with a blank line after each stretch, and its notes. -/
def given (theme : Theme) (sources : List Source) (report : Report) : List String :=
  (((report.message.map fun message => " " ++ message).getD "") ++ "\n") ::
    ((report.views theme sources).flatMap fun view => view.stretches.flatMap fun stretch =>
      (stretch.span.positions.map fun line =>
        String.ofList (Row.shown ((view.source.line? line).getD [])) ++ "\n") ++ ["\n"]) ++
    report.notes.map fun note => " " ++ note ++ "\n"

end Report

/-- The text of a segment without a style. -/
def Segment.plain? (segment : Segment) : Option String :=
  match segment.style with
  | none => some segment.text
  | some _ => none

/-- The plain text of a row. -/
def Row.plain? : Row → Option String
  | .line _ text => some (String.ofList (shown text) ++ "\n")
  | .blank => some "\n"
  | _ => none

theorem Row.filterMap_segments (theme : Theme) (severity : Severity) (fieldWidth : Nat) (row : Row) :
    (row.segments theme severity fieldWidth).filterMap Segment.plain? = row.plain?.toList := by
  cases row <;> rfl

theorem View.filterMap_rows (screen : Screen) (view : View) (stretch : Group Snippet) :
    (view.rows screen stretch).filterMap Row.plain? =
      (stretch.span.positions.map fun line =>
        String.ofList (Row.shown ((view.source.line? line).getD [])) ++ "\n") ++ ["\n"] := by
  have hheading : (stretch.items.head?.map (Excerpt.headingOf view.source)).toList.filterMap
      Row.plain? = [] := by
    cases stretch.items.head? <;> rfl
  have hlines : (stretch.span.positions.flatMap
      (view.source.lineRows screen view.snippets)).filterMap Row.plain? =
        stretch.span.positions.map fun line =>
          String.ofList (Row.shown ((view.source.line? line).getD [])) ++ "\n" := by
    rw [List.filterMap_flatMap, ← List.flatMap_singleton' (stretch.span.positions.map _),
      List.flatMap_map]
    exact List.flatMap_congr fun line _ =>
      Source.filterMap_lineRows (fun _ _ _ _ => rfl) screen view.source view.snippets line
  rw [rows, List.filterMap_append, List.filterMap_append, hheading, hlines]
  rfl

namespace Report

/-- The segments without a style are the texts that are shown as they are given. -/
theorem filterMap_plain (screen : Screen) (theme : Theme) (sources : List Source) (report : Report) :
    (report.header theme ++
        (report.views theme sources).flatMap (View.segments screen theme report.severity) ++
        report.noteSegments theme).filterMap Segment.plain? = report.given theme sources := by
  have hviews : ((report.views theme sources).flatMap
      (View.segments screen theme report.severity)).filterMap Segment.plain? =
        (report.views theme sources).flatMap fun view => view.stretches.flatMap fun stretch =>
          (stretch.span.positions.map fun line =>
            String.ofList (Row.shown ((view.source.line? line).getD [])) ++ "\n") ++ ["\n"] := by
    rw [List.filterMap_flatMap]
    refine List.flatMap_congr fun view _ => ?_
    rw [View.segments, List.filterMap_flatMap]
    refine List.flatMap_congr fun stretch _ => ?_
    rw [← View.filterMap_rows screen, List.filterMap_flatMap, List.filterMap_eq_flatMap_toList]
    exact List.flatMap_congr fun row _ => Row.filterMap_segments theme _ _ row
  have hnotes : (report.noteSegments theme).filterMap Segment.plain? =
      report.notes.map fun note => " " ++ note ++ "\n" := by
    rw [noteSegments, List.filterMap_flatMap, ← List.flatMap_singleton' (report.notes.map _),
      List.flatMap_map]
    rfl
  rw [List.filterMap_append, List.filterMap_append, hviews, hnotes, given]
  rfl

/-! ## The report -/

/-- A report with colour is shown if and only if it is shown without, and without its codes it is
the same.  Its segments are shown in their styles one after the other, where those without a style
are the message, the lines of the sources and the notes, and no code is left in force. -/
theorem renderOn_color (screen : Screen) (theme : Theme) (sources : List Source) (report : Report)
    (htheme : theme.IsClear) (hsources : ∀ source ∈ sources, source.IsClear)
    (hreport : report.IsClear) :
    ∃ (faults : List Fault) (colored plain : String) (segments : List Segment),
      report.renderOn screen theme sources true = outcome faults colored ∧
      report.renderOn screen theme sources false = outcome faults plain ∧
      Terminal.withoutCodes colored = plain ∧
      Terminal.shown colored = segments.flatMap Segment.ink ∧
      segments.filterMap Segment.plain? = report.given theme sources ∧
      Terminal.left colored = [] := by
  let segments := report.header theme ++
    (report.views theme sources).flatMap (View.segments screen theme report.severity) ++
      report.noteSegments theme
  have hclear : ∀ segment ∈ segments, Terminal.IsClear segment.text := by
    refine List.forall_mem_append.2 ⟨List.forall_mem_append.2 ⟨isClear_of_mem_header hreport, ?_⟩,
      isClear_of_mem_noteSegments htheme hreport⟩
    intro segment hsegment
    obtain ⟨view, hview, hsegment⟩ := List.mem_flatMap.1 hsegment
    exact isClear_of_mem_views htheme hsources hreport hview segment hsegment
  exact ⟨report.faults screen theme sources, Segment.write true segments,
    Segment.write false segments, segments, renderOn_eq screen theme sources true report,
    renderOn_eq screen theme sources false report, Segment.withoutCodes_write hclear,
    Segment.shown_write hclear, filterMap_plain screen theme sources report,
    Segment.left_write hclear⟩

/-- A style that is added to others, with an intense colour and a mixed one. -/
theorem renderOn_color_intense :
    let error : Style :=
      { replacing := false, bold := true, struck := true, intense := true,
        color := some (.named .red), background := some (.mixed 0 10 255) }
    let theme : Theme := { error, gutter := "|" }
    let sources : List Source := [{ name := "t", path := some "t.c", text := "a\n\tb" }]
    let report : Report := ⟨.error, some "message", [⟨"here", .primary, 0, ⟨3, 4⟩⟩], ["note"]⟩
    let loud := "\x1b[1m\x1b[9m\x1b[38;5;9m\x1b[48;2;0;10;255m"
    let subtle := "\x1b[0m\x1b[2m\x1b[3m"
    let colored := loud ++ "Error:\x1b[0m message\n" ++
      subtle ++ "In t:2:2 (t.c:2:2)\n\x1b[0m" ++ subtle ++ "1 | \x1b[0ma\n" ++
      subtle ++ "2 | \x1b[0m    b\n" ++
      subtle ++ "  | \x1b[0m" ++ loud ++ "     ^ here\n\x1b[0m\n" ++
      "\x1b[0m\x1b[1m= note:\x1b[0m note\n"
    let plain := "Error: message\n" ++ "In t:2:2 (t.c:2:2)\n" ++ "1 | a\n" ++ "2 |     b\n" ++
      "  |      ^ here\n" ++ "\n" ++ "= note: note\n"
    (theme.IsClear ∧ (∀ source ∈ sources, source.IsClear) ∧ report.IsClear) ∧
    report.renderOn .standard theme sources true = .ok colored ∧
    report.renderOn .standard theme sources false = .ok plain ∧
    Terminal.withoutCodes colored = plain ∧
    ∃ segments : List Segment,
      Terminal.shown colored = segments.flatMap Segment.ink ∧
      segments.filterMap Segment.plain? = report.given theme sources ∧
      Terminal.left colored = [] := by
  intro error theme sources report loud subtle colored plain
  have htheme : theme.IsClear := ⟨by decide, by decide, by decide, by decide⟩
  have hsources : ∀ source ∈ sources, source.IsClear :=
    List.forall_mem_singleton.2 ⟨by decide, by decide, by decide⟩
  have hreport : report.IsClear := ⟨by decide, by decide, by decide⟩
  have hcolored : report.renderOn .standard theme sources true = .ok colored := by decide +kernel
  have hplain : report.renderOn .standard theme sources false = .ok plain := by decide +kernel
  obtain ⟨faults, written, read, segments, hwritten, hread, hwithout, hshown, hgiven, hleft⟩ :=
    renderOn_color .standard theme sources report htheme hsources hreport
  obtain ⟨-, rfl⟩ := eq_of_outcome_eq_ok (hwritten.symm.trans hcolored)
  obtain ⟨-, rfl⟩ := eq_of_outcome_eq_ok (hread.symm.trans hplain)
  exact ⟨⟨htheme, hsources, hreport⟩, hcolored, hplain, hwithout, segments, hshown, hgiven, hleft⟩

end Report

end TinyC
