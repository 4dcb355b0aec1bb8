import TinyC.Proofs.Report.Gutters

/-!
# Columns of signs

The signs under a snippet begin below what stands before the snippet on its line,
and there are as many of them as the snippet has columns, at least one.  For this
a tab counts for one column more than it is shown with.  So each tab before the
snippet moves the signs one column too far to the right, and each tab in it adds a
sign too many; on lines without tabs the signs stand exactly below the snippet.

## Strategy

A tab is placed like a blank, whatever follows it, so showing it as four blanks
adds three columns to a text and changes nothing else (`measure_shown`).  The
gutters above each other are equally wide and end with a blank, which keeps them
apart from the text, so columns can be compared from there.
-/

namespace TinyC

variable {screen : Screen} {theme : Theme} {severity : Severity} {sources : List Source}
  {source : Source} {snippet : Snippet} {report : Report} {fieldWidth : Nat}

/-! ## Tabs -/

namespace Row

/-- Showing tabs as blanks adds three columns for each of them. -/
theorem measure_shown (text : List Char) :
    Text.measure (shown text) =
      ((Text.measure text).1 + 3 * (text.count '\t' : Int), (Text.measure text).2) := by
  induction text with
  | nil => rfl
  | cons c rest ih =>
      by_cases hc : c = '\t'
      · have hshown : shown (c :: rest) = ' ' :: ' ' :: ' ' :: ' ' :: shown rest := by
          rw [hc]
          rfl
        rw [hshown, hc]
        simp only [Text.measure, Text.place_blank, Text.place_tab, ih, List.count_cons_self,
          Prod.mk.injEq, and_true]
        omega
      · have hshown : shown (c :: rest) = c :: shown rest := by
          rw [shown, List.flatMap_cons, if_neg hc]
          rfl
        rw [hshown, List.count_cons_of_ne hc]
        simp only [Text.measure, ih, Prod.mk.injEq, and_true]
        omega

/-- A text counts for the columns that it is shown in, and one more for each tab. -/
theorem columns_eq (text : List Char) :
    columns .standard text = Text.width (shown text) + text.count '\t' := by
  have hshown := congrArg Prod.fst (measure_shown text)
  have htabs : (text.filter (· = '\t')).length = text.count '\t' :=
    (List.countP_eq_length_filter ..).symm
  have htab : tab.length = 4 := rfl
  have hwidth : columns .standard text = Text.width text + text.count '\t' * 4 := by
    rw [columns, htabs, htab]
    rfl
  dsimp only at hshown
  rw [← Text.natCast_width, ← Text.natCast_width] at hshown
  omega

theorem shown_append (front back : List Char) : shown (front ++ back) = shown front ++ shown back :=
  List.flatMap_append

/-! ## Rows side by side -/

/-- Rows one after the other end their last line. -/
theorem exists_join_printed_eq (theme : Theme) (severity : Severity) (fieldWidth : Nat)
    (first : Row) (rest : List Row) :
    ∃ front, String.join ((first :: rest).map (printed theme severity fieldWidth)) =
      front ++ "\n" := by
  induction rest generalizing first with
  | nil =>
      obtain ⟨front, hfront⟩ := exists_printed_eq theme severity fieldWidth first
      exact ⟨front, by simpa using hfront⟩
  | cons second rest ih =>
      obtain ⟨front, hfront⟩ := ih second
      rw [List.map_cons, String.join_cons, hfront, ← String.append_assoc]
      exact ⟨_, rfl⟩

/-- A margin ends with a blank, so what comes after it adds its own columns. -/
theorem width_margin_append (theme : Theme) (field : String) (text : List Char) :
    Text.width ((margin theme field).toList ++ text) =
      Text.width (margin theme field).toList + Text.width text := by
  have hmargin : (margin theme field).toList =
      (field ++ " " ++ theme.gutter).toList ++ [' '] := by
    rw [margin, String.toList_append]
    rfl
  rw [hmargin, List.append_assoc]
  exact Text.width_append_blank _ text

/-- Margins with fields of one length are equally wide. -/
theorem width_margin (theme : Theme) {field : String}
    (hfield : ∀ c ∈ field.toList, Text.isPrinting c = true) :
    Text.width (margin theme field).toList =
      field.length + 1 + Text.width (theme.gutter ++ " ").toList := by
  have hmargin : (margin theme field).toList =
      field.toList ++ ' ' :: (theme.gutter ++ " ").toList := by
    simp [margin]
  have hblank : ∀ c ∈ [' '], Text.isPrinting c = true := Text.isPrinting_blanks 1
  rw [hmargin, Text.width_append_blank, Text.width_append_of_isPrinting _ hblank,
    Text.width_of_isPrinting hfield, String.length_toList, List.length_singleton]

theorem length_spaces (count : Nat) : (spaces count).length = count := by
  rw [← String.length_toList, toList_spaces, List.length_replicate]

theorem isPrinting_aligned (fieldWidth number : Nat) :
    ∀ c ∈ (aligned fieldWidth number).toList, Text.isPrinting c = true := by
  rw [aligned_eq, String.toList_append]
  exact List.forall_mem_append.2 ⟨isPrinting_spaces _, isPrinting_ofNat number⟩

theorem length_aligned {number : Nat} (hfits : (Numeral.ofNat number).length ≤ fieldWidth) :
    (aligned fieldWidth number).length = fieldWidth := by
  rw [aligned_eq, String.length_append, length_spaces, Nat.sub_add_cancel hfits]

/-- A sign of one column takes as many columns as there are of it. -/
theorem width_repeated {sign : Char} (hsign : Text.isPrinting sign = true) (count : Nat) :
    Text.width (repeated (String.singleton sign) count).toList = count := by
  have htext : (repeated (String.singleton sign) count).toList = List.replicate count sign := by
    induction count with
    | zero => rfl
    | succ count ih =>
        rw [repeated] at ih
        rw [repeated, List.replicate_succ, String.join_cons, String.toList_append, ih,
          String.toList_singleton]
        rfl
  rw [htext, Text.width_of_isPrinting, List.length_replicate]
  intro c hc
  rw [(List.mem_replicate.1 hc).2]
  exact hsign

end Row

/-! ## A snippet in print -/

/-- The line of a snippet consists of what stands before it, what it covers, and the rest. -/
theorem Snippet.exists_lineText_eq (source : Source) (snippet : Snippet) :
    ∃ after, snippet.lineText source =
      snippet.before source ++ (snippet.covered source ++ after) := by
  have hbefore : snippet.before source <+: snippet.lineText source := Text.upTo_prefix_self _ _
  have hstop := Text.upTo_prefix_self (snippet.span.stop - snippet.lineStart source)
    (snippet.lineText source)
  rw [covered]
  generalize Text.upTo (snippet.span.stop - snippet.lineStart source)
    (snippet.lineText source) = upToStop at hstop ⊢
  rcases Nat.le_total (snippet.before source).length upToStop.length with hle | hle
  · obtain ⟨covered, hcovered⟩ := List.prefix_of_prefix_length_le hbefore hstop hle
    obtain ⟨after, hafter⟩ := hstop
    exact ⟨after, by rw [← hafter, ← hcovered, List.drop_left, List.append_assoc]⟩
  · -- A snippet that stops before it starts covers nothing.
    obtain ⟨after, hafter⟩ := hbefore
    exact ⟨after, by rw [List.drop_of_length_le hle, List.nil_append, hafter]⟩

theorem exists_flatMap_eq {α β : Type} {items : List α} {item : α} (hitem : item ∈ items)
    (f : α → List β) : ∃ front back, items.flatMap f = front ++ f item ++ back := by
  obtain ⟨front, back, rfl⟩ := List.append_of_mem hitem
  exact ⟨front.flatMap f, back.flatMap f, by simp⟩

/-- The line of a snippet, and under it the rows of others and that of the snippet. -/
def Snippet.rowsTo (screen : Screen) (source : Source) (others : List Snippet)
    (snippet : Snippet) : List Row :=
  .line (snippet.line source + 1) (snippet.lineText source) ::
    (others.map (Snippet.row screen source) ++ [snippet.row screen source])

theorem Source.exists_lineRows_eq (screen : Screen) (source : Source) {snippets : List Snippet}
    (hsnippet : snippet ∈ snippets) :
    ∃ others rows, source.lineRows screen snippets (snippet.line source) =
      snippet.rowsTo screen source others ++ rows := by
  have hmem : snippet ∈ snippets.filter fun other => other.line source = snippet.line source :=
    List.mem_filter.2 ⟨hsnippet, decide_eq_true rfl⟩
  obtain ⟨others, back, hfilter⟩ := List.append_of_mem hmem
  refine ⟨others, back.map (Snippet.row screen source), ?_⟩
  rw [lineRows, hfilter, Snippet.rowsTo]
  simp [Snippet.lineText]

namespace Report

/-- A snippet that is shown has its row under its line, in an excerpt with a field that is wide
enough for the number of the line. -/
theorem exists_segments_eq (screen : Screen) (theme : Theme)
    (hshown : snippet ∈ report.shown sources) (hsource : sources[snippet.source]? = some source) :
    ∃ front heading rows others back fieldWidth,
      report.header theme ++
          (report.views theme sources).flatMap (View.segments screen theme report.severity) ++
        report.noteSegments theme =
      front ++ (heading :: rows ++ snippet.rowsTo screen source others).flatMap
        (Row.segments theme report.severity fieldWidth) ++ back ∧
      (Numeral.ofNat (snippet.line source + 1)).length ≤ fieldWidth := by
  obtain ⟨view, hview, hmem⟩ :=
    List.mem_flatMap.1 ((underlined_perm theme sources report).mem_iff.2 hshown)
  have hisOf := View.isOf_of_mem hview
  obtain rfl : view.source = source := by
    have hsame := (hisOf.start_le (hisOf.underlined_perm.mem_iff.1 hmem)).2.1
    exact Option.some.inj (hsame.symm.trans hsource)
  obtain ⟨line, hline, hmem⟩ := List.mem_flatMap.1 hmem
  obtain ⟨hsnippet, hindex⟩ := List.mem_filter.1 hmem
  obtain rfl : snippet.line view.source = line := of_decide_eq_true hindex
  obtain ⟨stretch, hstretch, hline⟩ := List.mem_flatMap.1 hline
  obtain ⟨first, -, hfirst, -⟩ := hisOf.isComplete.heading stretch hstretch
  -- From the inside: the rows of the line, those of the stretch, the view, the report.
  obtain ⟨others, rest, hrows⟩ := view.source.exists_lineRows_eq screen hsnippet
  obtain ⟨rows, after, hlines⟩ :=
    exists_flatMap_eq hline (view.source.lineRows screen view.snippets)
  obtain ⟨before, behind, hstretches⟩ := exists_flatMap_eq hstretch fun stretch =>
    (view.rows screen stretch).flatMap (Row.segments theme report.severity
      (Excerpt.ofSnippets view.source stretch.items stretch.span).fieldWidth)
  obtain ⟨front, back, hviews⟩ :=
    exists_flatMap_eq hview (View.segments screen theme report.severity)
  let fieldWidth := (Excerpt.ofSnippets view.source stretch.items stretch.span).fieldWidth
  refine ⟨report.header theme ++ front ++ before, Excerpt.headingOf view.source first, rows, others,
    (rest ++ after ++ [Row.blank]).flatMap (Row.segments theme report.severity fieldWidth) ++ behind ++
      back ++ report.noteSegments theme, fieldWidth, ?_, ?_⟩
  · rw [hviews, View.segments, hstretches, View.rows, hfirst, hlines, hrows]
    simp [fieldWidth]
  · have hstop := Span.lt_stop_of_mem_positions hline
    rw [show fieldWidth = _ from
      Excerpt.fieldWidth_ofSnippets view.source stretch.items (Nat.zero_lt_of_lt hstop)]
    exact Numeral.length_ofNat_mono hstop

end Report

namespace Snippet

/-- A snippet in print: a line of text behind a margin, and blanks and signs behind another. -/
structure Print where
  lineMargin : String
  after : List Char
  rowMargin : String
  offset : Nat
  count : Nat

namespace Print

/-- The line of the snippet, with the text after the snippet at its end. -/
def line (source : Source) (snippet : Snippet) (print : Print) : String :=
  print.lineMargin ++ String.ofList (Row.shown (snippet.before source)) ++
    String.ofList (Row.shown (snippet.covered source ++ print.after)) ++ "\n"

/-- The row of the snippet. -/
def row (theme : Theme) (snippet : Snippet) (print : Print) : String :=
  print.rowMargin ++ Row.spaces print.offset ++ Row.repeated theme.underline print.count ++
    theme.afterUnderline ++ snippet.label ++ "\n"

/-- The signs stand under the snippet, but for the tabs before it and in it. -/
structure StandsUnder (theme : Theme) (source : Source) (snippet : Snippet) (print : Print) :
    Prop where
  line_eq : source.line? (snippet.line source) =
    some (snippet.before source ++ (snippet.covered source ++ print.after))
  margins : Text.width print.lineMargin.toList = Text.width print.rowMargin.toList
  /-- Each tab before the snippet moves the first sign one column to the right. -/
  first : Text.width (print.rowMargin ++ Row.spaces print.offset).toList =
    Text.width (print.lineMargin ++ String.ofList (Row.shown (snippet.before source))).toList +
      (snippet.before source).count '\t'
  /-- Each tab in the snippet adds one sign to those for the columns of the snippet. -/
  count_eq : print.count =
    max (Text.width (Row.shown (snippet.covered source)) + (snippet.covered source).count '\t') 1
  signs : ∀ sign, theme.underline = String.singleton sign → Text.isPrinting sign = true →
    Text.width (Row.repeated theme.underline print.count).toList = print.count

end Print

/-- The line of a snippet and its row are in print what they should be, if the field is wide enough
for the number of the line. -/
theorem exists_print (theme : Theme) (severity : Severity)
    (hstart : snippet.span.start ≤ source.byteLength)
    (hfits : (Numeral.ofNat (snippet.line source + 1)).length ≤ fieldWidth) :
    ∃ print : Print, print.StandsUnder theme source snippet ∧
      (Row.line (snippet.line source + 1) (snippet.lineText source)).printed theme severity
        fieldWidth = print.line source snippet ∧
      (snippet.row .standard source).printed theme severity fieldWidth =
        print.row theme snippet := by
  obtain ⟨after, htext⟩ := exists_lineText_eq source snippet
  let print : Print :=
    { lineMargin := Row.margin theme (Row.aligned fieldWidth (snippet.line source + 1))
      after
      rowMargin := Row.margin theme (Row.spaces fieldWidth)
      offset := Row.columns .standard (snippet.before source)
      count := max (Row.columns .standard (snippet.covered source)) 1 }
  have hline : Text.width print.lineMargin.toList =
      fieldWidth + 1 + Text.width (theme.gutter ++ " ").toList := by
    rw [Row.width_margin theme (Row.isPrinting_aligned fieldWidth _), Row.length_aligned hfits]
  have hrow : Text.width print.rowMargin.toList =
      fieldWidth + 1 + Text.width (theme.gutter ++ " ").toList := by
    rw [Row.width_margin theme (Row.isPrinting_spaces fieldWidth), Row.length_spaces]
  refine ⟨print, ⟨?_, hline.trans hrow.symm, ?_, ?_, ?_⟩, ?_, ?_⟩
  · rw [(exists_line hstart).1, htext]
  · -- Both sides begin with a margin, after which columns are added up.
    have hoffset : Text.width (Row.spaces print.offset).toList = print.offset := by
      rw [Text.width_of_isPrinting (Row.isPrinting_spaces _), String.length_toList,
        Row.length_spaces]
    have hbefore : print.offset = Text.width (Row.shown (snippet.before source)) +
        (snippet.before source).count '\t' := Row.columns_eq _
    calc Text.width (print.rowMargin ++ Row.spaces print.offset).toList
        = Text.width print.rowMargin.toList + print.offset := by
          rw [String.toList_append, Row.width_margin_append, hoffset]
      _ = Text.width print.lineMargin.toList + Text.width (Row.shown (snippet.before source)) +
            (snippet.before source).count '\t' := by
          rw [hrow, ← hline, hbefore, ← Nat.add_assoc]
      _ = _ := by
          rw [String.toList_append, String.toList_ofList, Row.width_margin_append]
  · exact congrArg (max · 1) (Row.columns_eq _)
  · intro sign hsign hprinting
    rw [hsign, Row.width_repeated hprinting]
  · rw [Row.printed_eq_text, Row.text, htext, Row.shown_append, String.ofList_append, Print.line]
    simp only [print, Row.aligned_eq, Numeral.ofNat_eq_toString, String.append_assoc]
  · rw [row, Row.printed_eq_text, Row.text, Print.row]

end Snippet

namespace Report

/-- A report is printed with every snippet that is shown on its line and in a row under it, in
which the signs begin below the snippet and go as far as it does, apart from one column for each
tab: a text counts for the columns that it is printed in, and one more for each tab. -/
theorem render_signs_under (theme : Theme) (sources : List Source) (report : Report)
    (hshown : snippet ∈ report.shown sources) (hsource : sources[snippet.source]? = some source) :
    (∀ text, Row.columns .standard text = Text.width (Row.shown text) + text.count '\t') ∧
    ∃ (print : Snippet.Print) (front : String) (others : List Snippet) (fieldWidth : Nat)
        (back : String),
      print.StandsUnder theme source snippet ∧
      report.render theme sources false = outcome (report.faults .standard theme sources)
        (front ++ "\n" ++ print.line source snippet ++
          String.join (others.map fun other =>
            (other.row .standard source).printed theme report.severity fieldWidth) ++
          print.row theme snippet ++ back) := by
  obtain ⟨front, heading, rows, others, back, fieldWidth, hsegments, hfits⟩ :=
    exists_segments_eq .standard theme hshown hsource
  obtain ⟨found, hfound, hstart⟩ := Snippet.isShown_iff.1 (List.mem_filter.1 hshown).2
  obtain rfl : source = found := Option.some.inj (hsource.symm.trans hfound)
  obtain ⟨print, hprint, hline, hrow⟩ := Snippet.exists_print theme report.severity hstart hfits
  obtain ⟨above, habove⟩ :=
    Row.exists_join_printed_eq theme report.severity fieldWidth heading rows
  refine ⟨Row.columns_eq, print, Segment.write false front ++ above, others, fieldWidth,
    Segment.write false back, hprint, ?_⟩
  rw [render, renderOn_eq, hsegments, Segment.write_append, Segment.write_append,
    Row.write_flatMap, List.map_append, String.join_append, habove, Snippet.rowsTo, List.map_cons,
    String.join_cons, List.map_append, String.join_append, hline]
  simp [hrow, String.append_assoc, List.map_map, Function.comp_def]

/-- A letter between wide ones, after a tab, in a text of two lines. -/
theorem render_signs_under_wide :
    let source := Source.ofText "t" "a\n\t宽x宽"
    let snippet : Snippet := ⟨"here", .secondary, 0, ⟨6, 7⟩⟩
    let report : Report := ⟨.warning, some "m", [snippet], ["n"]⟩
    let text := "Warning: m\n" ++ "In t:2:5\n" ++ "1 │ a\n" ++ "2 │     宽x宽\n" ++
      "  │        ^ here\n" ++ "\n" ++ "= note: n\n"
    (snippet ∈ report.shown [source] ∧ [source][snippet.source]? = some source) ∧
    report.faults .standard {} [source] = [] ∧
    report.render {} [source] false = .ok text ∧
    (∀ text, Row.columns .standard text = Text.width (Row.shown text) + text.count '\t') ∧
    ∃ (print : Snippet.Print) (front : String) (others : List Snippet) (fieldWidth : Nat)
        (back : String),
      print.StandsUnder {} source snippet ∧
      text = front ++ "\n" ++ print.line source snippet ++
        String.join (others.map fun other =>
          (other.row .standard source).printed {} report.severity fieldWidth) ++
        print.row {} snippet ++ back := by
  intro source snippet report text
  have hshown : snippet ∈ report.shown [source] := by decide +kernel
  have htext : report.render {} [source] false = .ok text := by decide +kernel
  obtain ⟨hcolumns, print, front, others, fieldWidth, back, hprint, hrender⟩ :=
    render_signs_under {} [source] report hshown rfl
  obtain ⟨hfaults, heq⟩ := eq_of_outcome_eq_ok (hrender.symm.trans htext)
  exact ⟨⟨hshown, rfl⟩, hfaults, htext, hcolumns, print, front, others, fieldWidth, back, hprint,
    heq.symm⟩

/-- Behind a tab a letter stands behind eight columns, and its sign behind nine. -/
theorem render_tab :
    let source := Source.ofText "t" "\tx"
    let report : Report := ⟨.error, none, [⟨"", .primary, 0, ⟨1, 2⟩⟩], []⟩
    report.render {} [source] false =
      .ok ("Error:\nIn t:1:2\n" ++ "1 │     " ++ "x\n" ++ "  │      " ++ "^ \n\n") ∧
    Text.width "1 │     ".toList = 8 ∧ Text.width "  │      ".toList = 9 ∧
    Row.columns .standard ['\t'] = 5 ∧ Text.width (Row.shown ['\t']) = 4 := by
  decide +kernel

end Report

end TinyC
