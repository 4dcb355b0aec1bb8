import Mathlib.Data.List.Perm.Basic
import TinyC.Proofs.Report.Rows

/-!
# What a report shows of its sources

A report shows one view of each source in which it has a snippet: stretches of
lines, with a row under a line for every snippet that starts on it.  The lines
are those near the snippets, each once and in order, and each snippet has one row.

## Strategy

Marks stand for the snippets of one source, and joining their windows is joining
the windows of the snippets.  The spans of the groups cover exactly the windows,
and a group has all snippets that start on one of its lines, in their order, since
these have the same window.
-/

namespace TinyC

variable {screen : Screen} {theme : Theme} {severity : Severity} {sources : List Source}
  {source : Source} {snippet : Snippet} {snippets : List Snippet} {report : Report}

/-! ## Windows around snippets -/

namespace Snippet

/-- The lines around a snippet. -/
def window (contextLines : Nat) (source : Source) (snippet : Snippet) : Span :=
  Excerpt.window contextLines source.lineCount (snippet.mark source)

variable {contextLines : Nat}

/-- The window has the lines of the source that are not too far away. -/
theorem contains_window_iff (line : Nat) :
    (snippet.window contextLines source).contains line = true ↔
      line < source.lineCount ∧ line ≤ snippet.line source + contextLines ∧
        snippet.line source ≤ line + contextLines := by
  rw [Span.contains_iff]
  simp only [window, Excerpt.window, mark]
  omega

theorem contains_window_line (hstart : snippet.span.start ≤ source.byteLength) :
    (snippet.window contextLines source).contains (snippet.line source) = true :=
  (contains_window_iff _).2 ⟨line_lt_lineCount hstart, Nat.le_add_right _ _, Nat.le_add_right _ _⟩

theorem window_start_lt_stop (hstart : snippet.span.start ≤ source.byteLength) :
    (snippet.window contextLines source).start < (snippet.window contextLines source).stop := by
  have hline := Span.contains_iff.1 (@contains_window_line _ _ contextLines hstart)
  omega

theorem window_stop_le : (snippet.window contextLines source).stop ≤ source.lineCount :=
  Nat.min_le_right _ _

end Snippet

/-! ## Views -/

/-- What a report shows of a source: its snippets there, and the stretches of lines around them. -/
structure View where
  id : Nat
  source : Source
  snippets : List Snippet
  stretches : List (Group Snippet)

namespace View

/-- The rows of a stretch: the place of its first snippet, then each line with the snippets that
start on it. -/
def rows (screen : Screen) (view : View) (stretch : Group Snippet) : List Row :=
  (stretch.items.head?.map (Excerpt.headingOf view.source)).toList ++
    stretch.span.positions.flatMap (view.source.lineRows screen view.snippets) ++ [.blank]

/-- The segments of a view. -/
def segments (screen : Screen) (theme : Theme) (severity : Severity) (view : View) :
    List Segment :=
  view.stretches.flatMap fun stretch =>
    (view.rows screen stretch).flatMap (Row.segments theme severity
      (Excerpt.ofSnippets view.source stretch.items stretch.span).fieldWidth)

/-- The numbers of the lines of a view, in the order in which they are shown. -/
def lines (view : View) : List Nat := view.stretches.flatMap fun stretch => stretch.span.positions

/-- The snippets that have a row in a view, in the order of these rows. -/
def underlined (view : View) : List Snippet :=
  view.lines.flatMap fun line =>
    view.snippets.filter fun snippet => snippet.line view.source = line

/-- What keeps the snippets of a view from being drawn, in the order of their rows. -/
def faults (screen : Screen) (view : View) : List Fault :=
  view.underlined.flatMap (Snippet.faults screen view.source)

/-- The lines of a view are those of the source near a snippet, in order, in stretches with lines
left out between them. -/
structure IsComplete (contextLines : Nat) (view : View) : Prop where
  mem_lines : ∀ line, line ∈ view.lines ↔ line < view.source.lineCount ∧
    ∃ snippet ∈ view.snippets, line ≤ snippet.line view.source + contextLines ∧
      snippet.line view.source ≤ line + contextLines
  increasing : view.lines.Pairwise (· < ·)
  gaps : view.stretches.Pairwise fun first second => first.span.stop < second.span.start
  heading : ∀ stretch ∈ view.stretches, ∃ first ∈ view.snippets,
    stretch.items.head? = some first ∧ stretch.span.contains (first.line view.source) = true

end View

/-- The snippets of a report that are shown. -/
def Report.shown (sources : List Source) (report : Report) : List Snippet :=
  report.snippets.filter (Snippet.isShown sources)

/-- The view that shows the marks of a source. -/
def Report.view (theme : Theme) (sources : List Source) (report : Report) (entry : Marked) :
    View :=
  let snippets := (report.shown sources).filter fun snippet => snippet.source = entry.id
  ⟨entry.id, entry.source, snippets,
    Group.ofItems (Snippet.window theme.contextLines entry.source) snippets⟩

/-- The views of a report, in the order of the first snippets of their sources. -/
def Report.views (theme : Theme) (sources : List Source) (report : Report) : List View :=
  (Marked.ofSnippets sources report.snippets).map (report.view theme sources)

namespace View

/-- The view of a source in a report. -/
structure IsOf (theme : Theme) (sources : List Source) (report : Report) (view : View) : Prop where
  source : sources[view.id]? = some view.source
  snippets : view.snippets =
    (report.shown sources).filter fun snippet => snippet.source = view.id
  stretches : view.stretches =
    Group.ofItems (Snippet.window theme.contextLines view.source) view.snippets

variable {view : View}

theorem isOf_of_mem (hview : view ∈ report.views theme sources) :
    view.IsOf theme sources report := by
  obtain ⟨entry, hentry, rfl⟩ := List.mem_map.1 hview
  exact ⟨(Marked.areMarked_ofSnippets sources report.snippets).source entry hentry, rfl, rfl⟩

/-- The snippets of a view start inside its source. -/
theorem IsOf.start_le (hview : view.IsOf theme sources report)
    (hsnippet : snippet ∈ view.snippets) :
    snippet ∈ report.snippets ∧ sources[snippet.source]? = some view.source ∧
      snippet.span.start ≤ view.source.byteLength := by
  rw [hview.snippets, List.mem_filter, Report.shown, List.mem_filter] at hsnippet
  obtain ⟨⟨hmem, hshown⟩, hid⟩ := hsnippet
  obtain ⟨source, hsource, hstart⟩ := Snippet.isShown_iff.1 hshown
  have hid : snippet.source = view.id := of_decide_eq_true hid
  have hsame := hview.source
  rw [← hid, hsource] at hsame
  obtain rfl := Option.some.inj hsame
  exact ⟨hmem, hsource, hstart⟩

theorem IsOf.window_start_le_stop (hview : view.IsOf theme sources report) :
    ∀ snippet ∈ view.snippets, (snippet.window theme.contextLines view.source).start ≤
      (snippet.window theme.contextLines view.source).stop :=
  fun _ hsnippet => (Snippet.window_start_lt_stop (hview.start_le hsnippet).2.2).le

theorem IsOf.areStretches (hview : view.IsOf theme sources report) :
    Group.AreStretches (Snippet.window theme.contextLines view.source) view.stretches := by
  rw [hview.stretches]
  exact Group.areStretches_ofItems hview.window_start_le_stop

theorem IsOf.mem_snippets (hview : view.IsOf theme sources report) {stretch : Group Snippet}
    (hstretch : stretch ∈ view.stretches) (hsnippet : snippet ∈ stretch.items) :
    snippet ∈ view.snippets := by
  rw [hview.stretches] at hstretch
  have hitems := Group.items_ofItems (Snippet.window theme.contextLines view.source) view.snippets
  exact Group.mem_inOrder.1 (hitems ▸ List.mem_flatMap.2 ⟨stretch, hstretch, hsnippet⟩)

/-- The stretches of a view have lines of its source only. -/
theorem IsOf.stop_le (hview : view.IsOf theme sources report) {stretch : Group Snippet}
    (hstretch : stretch ∈ view.stretches) : stretch.span.stop ≤ view.source.lineCount := by
  obtain ⟨last, -, hstop⟩ := (hview.areStretches.isStretch stretch hstretch).stop_eq
  exact hstop ▸ Snippet.window_stop_le

theorem IsOf.isComplete (hview : view.IsOf theme sources report) :
    view.IsComplete theme.contextLines where
  mem_lines := by
    intro line
    rw [lines, List.mem_flatMap, hview.stretches]
    simp only [Span.mem_positions]
    rw [Group.exists_contains_iff hview.window_start_le_stop]
    simp only [Snippet.contains_window_iff]
    constructor
    · rintro ⟨snippet, hsnippet, hline, hnear⟩
      exact ⟨hline, snippet, hsnippet, hnear⟩
    · rintro ⟨hline, snippet, hsnippet, hnear⟩
      exact ⟨snippet, hsnippet, hline, hnear⟩
  increasing := hview.areStretches.pairwise_positions
  gaps := hview.areStretches.gaps
  heading := by
    intro stretch hstretch
    have hcovered := hview.areStretches.isStretch stretch hstretch
    obtain ⟨first, hfirst, hstart⟩ := hcovered.start_eq
    have hitem := List.mem_of_head? hfirst
    have hmem := hview.mem_snippets hstretch hitem
    have hline := @Snippet.contains_window_line _ _ theme.contextLines (hview.start_le hmem).2.2
    have hstop := hcovered.le_stop first hitem
    rw [Span.contains_iff] at hline
    refine ⟨first, hmem, hfirst, ?_⟩
    rw [Span.contains_iff]
    omega

theorem IsOf.stop_pos (hview : view.IsOf theme sources report) {stretch : Group Snippet}
    (hstretch : stretch ∈ view.stretches) : 0 < stretch.span.stop := by
  obtain ⟨_, -, -, hline⟩ := hview.isComplete.heading stretch hstretch
  exact Nat.zero_lt_of_lt (Span.contains_iff.1 hline).2

/-- A stretch has all snippets that start on one of its lines, in the order of the report. -/
theorem IsOf.filter_items (hview : view.IsOf theme sources report) {stretch : Group Snippet}
    (hstretch : stretch ∈ view.stretches) {line : Nat} (hline : line ∈ stretch.span.positions) :
    (stretch.items.filter fun snippet => snippet.line view.source = line) =
      view.snippets.filter fun snippet => snippet.line view.source = line := by
  rw [hview.stretches] at hstretch
  refine Group.filter_items hview.window_start_le_stop ?_ ?_ hstretch
    (Span.mem_positions.1 hline)
  · intro first _ second _ hfirst hsecond
    have hsame : first.line view.source = second.line view.source :=
      (of_decide_eq_true hfirst).trans (of_decide_eq_true hsecond).symm
    simp only [Snippet.window, Excerpt.window, Snippet.mark, hsame]
  · intro snippet hsnippet hkeep
    have hsame : snippet.line view.source = line := of_decide_eq_true hkeep
    rw [← hsame]
    exact Snippet.contains_window_line (hview.start_le hsnippet).2.2

end View

/-! ## Each snippet once -/

/-- Items sorted by what distinguishes them are the same items. -/
theorem flatMap_filter_perm {α : Type} {key : α → Nat} {keys : List Nat} {items : List α}
    (hnodup : keys.Nodup) (hkeys : ∀ item ∈ items, key item ∈ keys) :
    (keys.flatMap fun value => items.filter fun item => key item = value).Perm items := by
  induction keys generalizing items with
  | nil =>
      obtain rfl := List.eq_nil_iff_forall_not_mem.2 fun item hitem =>
        List.not_mem_nil (hkeys item hitem)
      exact .refl _
  | cons first rest ih =>
      obtain ⟨hfirst, hrest⟩ := List.nodup_cons.1 hnodup
      have hothers : (rest.flatMap fun value => items.filter fun item => key item = value) =
          rest.flatMap fun value =>
            (items.filter fun item => !decide (key item = first)).filter fun item =>
              key item = value := by
        refine List.flatMap_congr fun value hvalue => ?_
        rw [List.filter_filter]
        refine List.filter_congr fun item _ => ?_
        have hne : value ≠ first := fun heq => hfirst (heq ▸ hvalue)
        by_cases hitem : key item = value <;> simp [hitem, hne]
      have hremaining : ∀ item ∈ items.filter (fun item => !decide (key item = first)),
          key item ∈ rest := by
        intro item hitem
        obtain ⟨hitem, hne⟩ := List.mem_filter.1 hitem
        exact (List.mem_cons.1 (hkeys item hitem)).resolve_left (by simpa using hne)
      rw [List.flatMap_cons, hothers]
      exact ((ih hrest hremaining).append_left _).trans
        (List.filter_append_perm (fun item => decide (key item = first)) items)

/-- Every snippet of a view has one row in it. -/
theorem View.IsOf.underlined_perm {view : View} (hview : view.IsOf theme sources report) :
    view.underlined.Perm view.snippets := by
  have hcomplete := hview.isComplete
  refine flatMap_filter_perm (hcomplete.increasing.imp Nat.ne_of_lt) fun snippet hsnippet => ?_
  exact (hcomplete.mem_lines _).2
    ⟨Snippet.line_lt_lineCount (hview.start_le hsnippet).2.2, snippet, hsnippet,
      Nat.le_add_right _ _, Nat.le_add_right _ _⟩

namespace Report

theorem map_id_views (theme : Theme) (sources : List Source) (report : Report) :
    (report.views theme sources).map View.id =
      ((report.shown sources).map Snippet.source).eraseDups := by
  rw [views, List.map_map]
  exact (Marked.areMarked_ofSnippets sources report.snippets).ids

/-- Every snippet that is shown has one row in all views together. -/
theorem underlined_perm (theme : Theme) (sources : List Source) (report : Report) :
    ((report.views theme sources).flatMap View.underlined).Perm (report.shown sources) := by
  have hmarked := Marked.areMarked_ofSnippets sources report.snippets
  have hids : (report.views theme sources).map View.id =
      (Marked.ofSnippets sources report.snippets).map Marked.id := by
    rw [views, List.map_map]
    rfl
  have hviews : ((report.views theme sources).flatMap View.underlined).Perm
      ((report.views theme sources).flatMap fun view =>
        (report.shown sources).filter fun snippet => snippet.source = view.id) := by
    refine List.Perm.flatMap_left _ fun view hview => ?_
    have hisOf := View.isOf_of_mem hview
    rw [← hisOf.snippets]
    exact hisOf.underlined_perm
  refine hviews.trans ?_
  rw [← List.flatMap_map View.id
    (fun id => (report.shown sources).filter fun snippet => snippet.source = id), hids]
  refine flatMap_filter_perm hmarked.nodup fun snippet hsnippet => ?_
  rw [hmarked.ids, List.mem_eraseDups]
  exact List.mem_map_of_mem hsnippet

/-- What keeps a report from being shown, in the order in which it comes up. -/
def faults (screen : Screen) (theme : Theme) (sources : List Source) (report : Report) :
    List Fault :=
  (report.views theme sources).flatMap (View.faults screen)

/-- What keeps a report from being shown is what keeps its snippets from being drawn. -/
theorem mem_faults {fault : Fault} :
    fault ∈ report.faults screen theme sources ↔
      ∃ snippet ∈ report.shown sources, ∃ source ∈ sources[snippet.source]?,
        fault ∈ snippet.faults screen source := by
  have hperm := underlined_perm theme sources report
  rw [faults, List.mem_flatMap]
  constructor
  · rintro ⟨view, hview, hfault⟩
    obtain ⟨snippet, hsnippet, hfault⟩ := List.mem_flatMap.1 hfault
    have hisOf := View.isOf_of_mem hview
    have hsource := (hisOf.start_le (hisOf.underlined_perm.mem_iff.1 hsnippet)).2.1
    exact ⟨snippet, hperm.mem_iff.1 (List.mem_flatMap.2 ⟨view, hview, hsnippet⟩), view.source,
      hsource, hfault⟩
  · rintro ⟨snippet, hsnippet, source, hsource, hfault⟩
    obtain ⟨view, hview, hmem⟩ := List.mem_flatMap.1 (hperm.mem_iff.2 hsnippet)
    have hisOf := View.isOf_of_mem hview
    have hsame := (hisOf.start_le (hisOf.underlined_perm.mem_iff.1 hmem)).2.1
    rw [hsource] at hsame
    obtain rfl := Option.some.inj hsame
    exact ⟨view, hview, List.mem_flatMap.2 ⟨snippet, hmem, hfault⟩⟩

end Report

end TinyC
