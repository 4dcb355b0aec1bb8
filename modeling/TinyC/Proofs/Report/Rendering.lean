import TinyC.Proofs.Report.Printed
import TinyC.Proofs.Text.Width

/-!
# Reports as they are printed

A report is printed as its header, its views and its notes.  Whoever makes it
sees to it that the bounds of its snippets go through no character; whether a
field of spaces can be as wide as the text before a snippet is a matter of the
screen, and on the standard one it cannot beyond 65535 columns.  A report with a
snippet that is further to the right is not printed at all.
-/

namespace TinyC.Report

variable {screen : Screen} {theme : Theme} {sources : List Source} {source : Source}
  {snippet : Snippet} {report : Report}

/-! ## Excerpts of views -/

/-- The stretches of a report, each with the view that it belongs to. -/
def stretches (theme : Theme) (sources : List Source) (report : Report) :
    List (View × Group Snippet) :=
  (report.views theme sources).flatMap fun view => view.stretches.map fun stretch => (view, stretch)

/-- The excerpts of a report are its stretches. -/
theorem excerpts_eq (theme : Theme) (sources : List Source) (report : Report) :
    report.excerpts theme sources = (report.stretches theme sources).map fun pair =>
      Excerpt.ofSnippets pair.1.source pair.2.items pair.2.span := by
  rw [excerpts, stretches, views, List.map_flatMap, List.flatMap_map]
  refine List.flatMap_congr fun entry hentry => ?_
  have hmarks := (Marked.areMarked_ofSnippets sources report.snippets).marks entry hentry
  rw [Excerpt.ofMarks, hmarks, Group.ofItems_map, List.map_map, List.map_map]
  rfl

/-- The excerpt of a stretch has the rows of the stretch. -/
theorem rows_eq (screen : Screen) {view : View} (hview : view.IsOf theme sources report)
    {stretch : Group Snippet} (hstretch : stretch ∈ view.stretches) :
    (Excerpt.ofSnippets view.source stretch.items stretch.span).rows screen =
      outcome (stretch.span.positions.flatMap (view.source.lineFaults screen view.snippets))
        (view.rows screen stretch) := by
  obtain ⟨first, -, hfirst, hline⟩ := hview.isComplete.heading stretch hstretch
  have hstart := Span.contains_iff.1 hline
  have hspan := hview.stop_le hstretch
  have hitems : ∀ snippet ∈ stretch.items, snippet.span.start ≤ view.source.byteLength :=
    fun snippet hsnippet => (hview.start_le (hview.mem_snippets hstretch hsnippet)).2.2
  have hlines : stretch.span.positions.flatMap (view.source.lineRows screen stretch.items) =
      stretch.span.positions.flatMap (view.source.lineRows screen view.snippets) := by
    refine List.flatMap_congr fun line hline => ?_
    rw [Source.lineRows, Source.lineRows, hview.filter_items hstretch hline]
  have hfaults : stretch.span.positions.flatMap (view.source.lineFaults screen stretch.items) =
      stretch.span.positions.flatMap (view.source.lineFaults screen view.snippets) := by
    refine List.flatMap_congr fun line hline => ?_
    rw [Source.lineFaults, Source.lineFaults, hview.filter_items hstretch hline]
  rw [Excerpt.rows_eq screen hitems hfirst (by omega) hspan, hlines, hfaults, View.rows, hfirst]
  rfl

/-- The segments of the stretches one after the other are those of the views. -/
theorem flatten_segments (screen : Screen) (theme : Theme) (severity : Severity)
    (sources : List Source) (report : Report) :
    ((report.stretches theme sources).map fun pair =>
        (pair.1.rows screen pair.2).flatMap (Row.segments theme severity
          (Excerpt.ofSnippets pair.1.source pair.2.items pair.2.span).fieldWidth)).flatten =
      (report.views theme sources).flatMap (View.segments screen theme severity) := by
  rw [← List.flatMap_def, stretches, List.flatMap_assoc]
  simp only [List.flatMap_map]
  rfl

/-- The faults on the lines of the stretches are those of the report. -/
theorem flatMap_lineFaults (screen : Screen) (theme : Theme) (sources : List Source)
    (report : Report) :
    ((report.stretches theme sources).flatMap fun pair =>
        pair.2.span.positions.flatMap (pair.1.source.lineFaults screen pair.1.snippets)) =
      report.faults screen theme sources := by
  rw [stretches, faults, List.flatMap_assoc]
  refine congrArg (List.flatMap · _) (funext fun view => ?_)
  rw [List.flatMap_map, View.faults, View.underlined, View.lines, List.flatMap_assoc,
    List.flatMap_assoc]
  rfl

/-- A report is shown as its header, its views and its notes, if nothing keeps it from being
shown. -/
theorem segments_eq (screen : Screen) (theme : Theme) (sources : List Source) (report : Report) :
    report.segments screen theme sources =
      outcome (report.faults screen theme sources) (report.header theme ++
        (report.views theme sources).flatMap (View.segments screen theme report.severity) ++
          report.noteSegments theme) := by
  have hexcerpts : (report.excerpts theme sources).mapM
      (Excerpt.segments screen theme report.severity) =
        outcome (report.faults screen theme sources)
          ((report.stretches theme sources).map fun pair =>
            (pair.1.rows screen pair.2).flatMap (Row.segments theme report.severity
              (Excerpt.ofSnippets pair.1.source pair.2.items pair.2.span).fieldWidth)) := by
    rw [excerpts_eq, List.mapM_map, ← flatMap_lineFaults]
    refine mapM_eq_outcome fun pair hpair => ?_
    obtain ⟨view, hview, hpair⟩ := List.mem_flatMap.1 hpair
    obtain ⟨stretch, hstretch, rfl⟩ := List.mem_map.1 hpair
    rw [Function.comp_apply, Excerpt.segments, rows_eq screen (View.isOf_of_mem hview) hstretch]
    cases stretch.span.positions.flatMap (view.source.lineFaults screen view.snippets) <;> rfl
  rw [segments, hexcerpts, ← flatten_segments]
  cases report.faults screen theme sources <;> rfl

theorem renderOn_eq (screen : Screen) (theme : Theme) (sources : List Source) (color : Bool)
    (report : Report) :
    report.renderOn screen theme sources color =
      outcome (report.faults screen theme sources) (Segment.write color (report.header theme ++
        (report.views theme sources).flatMap (View.segments screen theme report.severity) ++
          report.noteSegments theme)) := by
  rw [renderOn, segments_eq]
  cases report.faults screen theme sources <;> rfl

/-- Without colour a report is printed as its lines of text. -/
theorem renderOn_eq_text (screen : Screen) (theme : Theme) (sources : List Source)
    (report : Report) :
    report.renderOn screen theme sources false = outcome (report.faults screen theme sources)
      (report.firstLine ++
        String.join ((report.views theme sources).map (View.text screen theme)) ++
        report.noteLines theme) := by
  rw [renderOn_eq, write_segments]

/-! ## One snippet -/

/-- A report with one snippet has one excerpt. -/
theorem excerpts_of_single (theme : Theme) (hsnippets : report.snippets = [snippet])
    (hsource : sources[snippet.source]? = some source)
    (hstart : snippet.span.start ≤ source.byteLength) :
    report.excerpts theme sources =
      [Excerpt.ofSnippets source [snippet] (snippet.window theme.contextLines source)] := by
  have hmarked : Marked.ofSnippets sources [snippet] =
      [⟨snippet.source, source, [snippet.mark source]⟩] := by
    rw [Marked.ofSnippets, List.foldl_cons, List.foldl_nil, hsource]
    dsimp only
    rw [Snippet.mark?_eq, if_pos hstart]
    rfl
  rw [excerpts, hsnippets, hmarked, List.flatMap_singleton, Excerpt.ofMarks,
    Group.ofItems_singleton]
  rfl

/-- A report with one snippet is shown as the lines around it, with one row under its line. -/
theorem segments_of_single (theme : Theme) (hsnippets : report.snippets = [snippet])
    (hsource : sources[snippet.source]? = some source) (hplaced : snippet.IsPlaced source)
    (hfits : snippet.fits screen source = true) :
    report.segments screen theme sources = .ok (report.header theme ++
      (Excerpt.headingOf source snippet ::
        (snippet.window theme.contextLines source).positions.flatMap
          (source.lineRows screen [snippet]) ++ [Row.blank]).flatMap
        (Row.segments theme report.severity (Excerpt.ofSnippets source [snippet]
          (snippet.window theme.contextLines source)).fieldWidth) ++
      report.noteSegments theme) := by
  have hall : ∀ other ∈ [snippet], other.span.start ≤ source.byteLength := by
    simpa using hplaced.start_le
  have hfirst : [snippet].head? = some snippet := rfl
  have hlines : (snippet.window theme.contextLines source).positions.flatMap
      (source.lineFaults screen [snippet]) = [] := by
    refine List.flatMap_eq_nil_iff.2 fun line _ => List.flatMap_eq_nil_iff.2 fun other hother => ?_
    rw [List.mem_singleton.1 (List.mem_of_mem_filter hother), hplaced.faults_eq, if_pos hfits]
  have hrows := Excerpt.rows_eq screen hall hfirst
    (@Snippet.window_start_lt_stop _ _ theme.contextLines hplaced.start_le).le
    Snippet.window_stop_le
  rw [segments, excerpts_of_single theme hsnippets hsource hplaced.start_le, List.mapM_cons,
    Excerpt.segments, hrows, hlines]
  dsimp only [outcome, List.mapM_nil, bind, Except.bind, pure, Except.pure]
  rw [List.flatten_singleton]

/-! ## Boundaries of characters -/

section

variable (hcuts : ∀ snippet ∈ report.snippets, ∀ source ∈ sources[snippet.source]?,
  Text.IsCut snippet.span.start source.text.toList ∧
    Text.IsCut snippet.span.stop source.text.toList)
include hcuts

/-- Where no bound goes through a character, only the field before a snippet can be too wide. -/
theorem faults_of_mem_shown (screen : Screen) (hshown : snippet ∈ report.shown sources)
    (hsource : sources[snippet.source]? = some source) :
    snippet.faults screen source =
      if snippet.fits screen source then [] else [.beyondField] := by
  obtain ⟨hmem, hstart⟩ := List.mem_filter.1 hshown
  obtain ⟨other, hother, hstart⟩ := Snippet.isShown_iff.1 hstart
  obtain rfl := Option.some.inj (hsource.symm.trans hother)
  obtain ⟨hcutStart, hcutStop⟩ := hcuts snippet hmem source hsource
  exact Snippet.IsPlaced.faults_eq screen ⟨hstart, hcutStart, hcutStop⟩

/-- Nothing keeps a report from being shown whose snippets all fit. -/
theorem faults_eq_nil (theme : Theme)
    (hfits : ∀ snippet ∈ report.shown sources, ∀ source ∈ sources[snippet.source]?,
      snippet.fits screen source = true) : report.faults screen theme sources = [] := by
  refine List.eq_nil_iff_forall_not_mem.2 fun fault hfault => ?_
  obtain ⟨snippet, hshown, source, hsource, hfault⟩ := mem_faults.1 hfault
  rw [faults_of_mem_shown hcuts screen hshown hsource,
    if_pos (hfits snippet hshown source hsource)] at hfault
  cases hfault

/-- A report with a snippet that does not fit is not shown. -/
theorem renderOn_eq_error (theme : Theme) (color : Bool) (hshown : snippet ∈ report.shown sources)
    (hsource : sources[snippet.source]? = some source)
    (hfits : snippet.fits screen source = false) :
    report.renderOn screen theme sources color = .error .beyondField := by
  have hall : ∀ fault ∈ report.faults screen theme sources, fault = .beyondField := by
    intro fault hfault
    obtain ⟨other, hother, found, hfound, hfault⟩ := mem_faults.1 hfault
    rw [faults_of_mem_shown hcuts screen hother hfound] at hfault
    split at hfault
    · cases hfault
    · exact List.mem_singleton.1 hfault
  have hsome : Fault.beyondField ∈ report.faults screen theme sources := by
    refine mem_faults.2 ⟨snippet, hshown, source, hsource, ?_⟩
    rw [faults_of_mem_shown hcuts screen hshown hsource, hfits]
    exact List.mem_singleton_self _
  rw [renderOn_eq]
  cases hfaults : report.faults screen theme sources with
  | nil => rw [hfaults] at hsome; cases hsome
  | cons first others =>
      rw [hfaults] at hall
      exact congrArg Except.error (hall first List.mem_cons_self)

end

/-! ## Beyond the widest field -/

/-- Spaces take one column each. -/
theorem columns_spaces (count : Nat) :
    Row.columns .standard (List.replicate count ' ') = count := by
  have htabs : (List.replicate count ' ').filter (· = '\t') = [] := by simp
  have hwidth := Text.width_of_isPrinting (Text.isPrinting_blanks count)
  rw [List.length_replicate] at hwidth
  rw [Row.columns, htabs]
  exact hwidth

theorem byteLength_spaces (count : Nat) : Text.byteLength (List.replicate count ' ') = count := by
  rw [Text.byteLength_replicate]
  exact Nat.mul_one count

/-- Before the end of a line of spaces stands the whole line. -/
theorem before_spaces {count : Nat}
    (htext : source.text.toList = List.replicate count ' ') (hstart : snippet.span.start = count) :
    snippet.before source = List.replicate count ' ' := by
  have hline : Text.IsLine source.text.toList 0 [] (List.replicate count ' ') [] :=
    ⟨by simp [htext], rfl, by simp, by simp, by simp⟩
  have hindex : snippet.line source = 0 := by
    rw [Snippet.line, Text.lineFeedsBefore_eq]
    exact hline.count_upTo (Nat.zero_le _) (by simp [byteLength_spaces, hstart])
  have hshown : source.line? 0 = some (List.replicate count ' ') := by
    rw [Source.line?_of_isLine hline, Source.withoutEnd_of_not_mem (by simp)]
  rw [Snippet.before, Snippet.lineText, hindex, hshown, Option.getD_some]
  refine Text.upTo_of_byteLength_le ?_
  rw [byteLength_spaces, Snippet.lineStart, hindex, Source.lineStart?_of_isLine hline, hstart]
  exact le_rfl

/-- The end of a line of spaces can be placed, but not marked if it is too far to the right. -/
theorem render_spaces {count : Nat} (hwide : 65535 < count) :
    let source := Source.ofText "t" (String.ofList (List.replicate count ' '))
    let snippet : Snippet := ⟨"", .primary, 0, ⟨count, count⟩⟩
    snippet.IsPlaced source ∧
      Report.render {} [source] false ⟨.error, none, [snippet], []⟩ = .error .beyondField := by
  intro source snippet
  have htext : source.text.toList = List.replicate count ' ' := String.toList_ofList
  have hend : Text.IsCut count source.text.toList :=
    .inl (Text.isBoundary_iff.2 ⟨_, [], by rw [htext, List.append_nil], byteLength_spaces count⟩)
  have hstart : snippet.span.start ≤ source.byteLength := by
    rw [Source.byteLength, htext, byteLength_spaces]
  have hshown : snippet.isShown [source] = true := Snippet.isShown_iff.2 ⟨source, rfl, hstart⟩
  have hfits : snippet.fits .standard source = false := by
    rw [Snippet.fits, before_spaces htext rfl, columns_spaces]
    exact decide_eq_false (Nat.not_le.2 hwide)
  refine ⟨⟨hstart, hend, hend⟩, ?_⟩
  refine renderOn_eq_error ?_ {} false (List.mem_filter.2 ⟨List.mem_singleton_self _, hshown⟩)
    rfl hfits
  intro other hother found hfound
  obtain rfl := List.mem_singleton.1 hother
  obtain rfl := Option.some.inj hfound
  exact ⟨hend, hend⟩

/-! ## What is printed -/

/-- What is printed of a report whose snippets are on boundaries of characters and not too far to
the right: of each source in the order of the first snippets, the lines near a snippet, each once
and in order, with a row under a line for each snippet that starts on it, in the order of the
report.  Every snippet that is shown has exactly one row, and the others have none.  Without colour
these rows are printed as lines of text. -/
theorem render_underlines_snippets (theme : Theme) (sources : List Source) (color : Bool)
    (report : Report)
    (hcuts : ∀ snippet ∈ report.snippets, ∀ source ∈ sources[snippet.source]?,
      Text.IsCut snippet.span.start source.text.toList ∧
        Text.IsCut snippet.span.stop source.text.toList)
    (hfields : ∀ snippet ∈ report.shown sources, ∀ source ∈ sources[snippet.source]?,
      Row.columns .standard (snippet.before source) ≤ 65535) :
    ∃ views : List View,
      report.render theme sources color = .ok (Segment.write color (report.header theme ++
        views.flatMap (View.segments .standard theme report.severity) ++
          report.noteSegments theme)) ∧
      report.render theme sources false = .ok (report.firstLine ++
        String.join (views.map (View.text .standard theme)) ++ report.noteLines theme) ∧
      views.map View.id = ((report.shown sources).map Snippet.source).eraseDups ∧
      (∀ view ∈ views, sources[view.id]? = some view.source ∧
        view.snippets =
          ((report.shown sources).filter fun snippet => snippet.source = view.id) ∧
        view.IsComplete theme.contextLines) ∧
      (views.flatMap View.underlined).Perm (report.shown sources) := by
  have hnone : report.faults .standard theme sources = [] :=
    faults_eq_nil hcuts theme fun snippet hshown source hsource =>
      decide_eq_true (hfields snippet hshown source hsource)
  refine ⟨report.views theme sources, ?_, ?_, map_id_views theme sources report, ?_,
    underlined_perm theme sources report⟩
  · rw [render, renderOn_eq, hnone]
    rfl
  · rw [render, renderOn_eq_text, hnone]
    rfl
  · intro view hview
    have hisOf := View.isOf_of_mem hview
    exact ⟨hisOf.source, hisOf.snippets, hisOf.isComplete⟩

/-- Two windows that touch, a reversed snippet before one that goes beyond its line, a source
mentioned twice, and snippets without a place. -/
theorem render_underlines_snippets_touching :
    let sources := [Source.ofText "first" "é\r\n\nxy\n\n\nz", Source.ofText "second" ""]
    let report : Report := ⟨.warning, none,
      [⟨"z", .primary, 0, ⟨11, 12⟩⟩, ⟨"end", .primary, 1, ⟨0, 9⟩⟩, ⟨"gone", .primary, 7, ⟨0, 1⟩⟩,
        ⟨"y", .secondary, 0, ⟨7, 0⟩⟩, ⟨"e", .secondary, 0, ⟨0, 6⟩⟩, ⟨"far", .primary, 1, ⟨1, 1⟩⟩],
      []⟩
    ((∀ snippet ∈ report.snippets, ∀ source ∈ sources[snippet.source]?,
        Text.IsCut snippet.span.start source.text.toList ∧
          Text.IsCut snippet.span.stop source.text.toList) ∧
      ∀ snippet ∈ report.shown sources, ∀ source ∈ sources[snippet.source]?,
        Row.columns .standard (snippet.before source) ≤ 65535) ∧
    ∃ views : List View,
      report.render {} sources false = .ok (Segment.write false (report.header {} ++
        views.flatMap (View.segments .standard {} report.severity) ++
          report.noteSegments {})) ∧
      report.render {} sources false = .ok ("Warning:\n" ++
        String.join (views.map (View.text .standard {})) ++ report.noteLines {}) ∧
      views.map View.id = ((report.shown sources).map Snippet.source).eraseDups ∧
      (∀ view ∈ views, sources[view.id]? = some view.source ∧
        view.snippets =
          ((report.shown sources).filter fun snippet => snippet.source = view.id) ∧
        view.IsComplete 1) ∧
      (views.flatMap View.underlined).Perm (report.shown sources) := by
  intro sources report
  have hcuts : ∀ snippet ∈ report.snippets, ∀ source ∈ sources[snippet.source]?,
      Text.IsCut snippet.span.start source.text.toList ∧
        Text.IsCut snippet.span.stop source.text.toList := by
    decide +kernel
  have hfields : ∀ snippet ∈ report.shown sources, ∀ source ∈ sources[snippet.source]?,
      Row.columns .standard (snippet.before source) ≤ 65535 := by
    decide +kernel
  exact ⟨⟨hcuts, hfields⟩, render_underlines_snippets {} sources false report hcuts hfields⟩

/-- The first column that no field of spaces reaches on the standard screen. -/
theorem render_beyond_widest_field :
    let source := Source.ofText "t" (String.ofList (List.replicate 65536 ' '))
    let snippet : Snippet := ⟨"", .primary, 0, ⟨65536, 65536⟩⟩
    snippet.IsPlaced source ∧
      Report.render {} [source] false ⟨.error, none, [snippet], []⟩ = .error .beyondField :=
  render_spaces (by decide)

end TinyC.Report
