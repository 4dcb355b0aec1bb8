import TinyC.Proofs.Report.Rendering
import TinyC.Proofs.Report.Segments

/-!
# The order of snippets

A report with snippets on different lines of one source looks the same in whatever
order they were added, but for one place.  The windows around snippets near the
beginning of a source are cut off there and all start with its first line.  Of
these snippets it is the one added first whose place stands in the first heading.

## Strategy

Windows that start at different positions are put in order by where they start, so
only the items whose windows start at the first position keep an order of their
own.  They all belong to the first group, whose span is the same in any order, and
the groups after it are the same as well.  Under a line there is at most one row,
so that the rows do not depend on the order either.
-/

namespace TinyC

variable {screen : Screen} {theme : Theme} {severity : Severity} {sources : List Source}
  {source : Source} {snippet : Snippet} {snippets order : List Snippet} {report : Report}

/-! ## Groups -/

namespace Group

variable {α : Type} {window : α → Span} {items order : List α}

/-- Whether the window of an item starts at the first position. -/
def isFirst (window : α → Span) (item : α) : Bool := decide ((window item).start = 0)

/-- The items whose windows start further down, in order. -/
def later (window : α → Span) (items : List α) : List α :=
  (inOrder window items).filter fun item => !isFirst window item

/-- Windows that start together further down belong to one item. -/
def AreApart (window : α → Span) (items : List α) : Prop :=
  ∀ first ∈ items, ∀ second ∈ items, isFirst window first = false →
    (window first).start = (window second).start → first = second

/-- In order come the items whose windows start at the first position, and then the others. -/
theorem eq_filter_isFirst (hordered : items.Pairwise fun first second =>
      (window first).start ≤ (window second).start) :
    items = items.filter (isFirst window) ++ items.filter fun item => !isFirst window item := by
  induction items with
  | nil => rfl
  | cons item rest ih =>
      obtain ⟨hitem, hrest⟩ := List.pairwise_cons.1 hordered
      cases hfirst : isFirst window item with
      | true =>
          have hothers := ih hrest
          simp only [List.filter_cons, hfirst, Bool.not_true, if_true, List.cons_append,
            Bool.false_eq_true, if_false]
          exact congrArg (item :: ·) hothers
      | false =>
          -- Then no later window starts at the first position.
          have hnone : rest.filter (isFirst window) = [] := by
            refine List.filter_eq_nil_iff.2 fun other hother htop => ?_
            have hle := hitem other hother
            have hzero : (window other).start = 0 := of_decide_eq_true htop
            have hne : ¬(window item).start = 0 := of_decide_eq_false hfirst
            omega
          have hall : (rest.filter fun item => !isFirst window item) = rest := by
            refine List.filter_eq_self.2 fun other hother => ?_
            have hkept := List.filter_eq_nil_iff.1 hnone other hother
            simpa using hkept
          simp [hfirst, hnone, hall]

/-- The items with windows further down are in the same order, however they were added. -/
theorem later_of_perm (hapart : AreApart window items) (horder : order.Perm items) :
    later window order = later window items := by
  have hsorted : ∀ added : List α, (later window added).Pairwise fun first second =>
      (window first).start ≤ (window second).start := fun added =>
    (pairwise_inOrder window added).filter _
  have hperm : (inOrder window order).Perm (inOrder window items) :=
    (inOrder_perm window order).trans (horder.trans (inOrder_perm window items).symm)
  refine List.Perm.eq_of_pairwise ?_ (hsorted order) (hsorted items) (hperm.filter _)
  intro first second hfirst hsecond hle hge
  obtain ⟨hfirst, hkept⟩ := List.mem_filter.1 hfirst
  have hsecond := mem_inOrder.1 (List.mem_filter.1 hsecond).1
  have hfirst := horder.mem_iff.1 (mem_inOrder.1 hfirst)
  exact hapart first hfirst second hsecond (by simpa using hkept) (Nat.le_antisymm hle hge)

theorem inOrder_eq (hapart : AreApart window items) (horder : order.Perm items) :
    inOrder window order = order.filter (isFirst window) ++ later window items := by
  have htogether : ∀ first ∈ order, ∀ second ∈ order, isFirst window first = true →
      isFirst window second = true → (window first).start = (window second).start :=
    fun first _ second _ hfirst hsecond =>
      (of_decide_eq_true hfirst).trans (of_decide_eq_true hsecond).symm
  rw [← later_of_perm hapart horder, ← filter_inOrder htogether]
  exact eq_filter_isFirst (pairwise_inOrder window order)

/-- Items whose windows all start at the first position stay as they were added. -/
theorem inOrder_of_isFirst (hfirst : ∀ item ∈ items, isFirst window item = true) :
    inOrder window items = items := by
  have hkept := @filter_inOrder _ window items (isFirst window) fun first hmem second hother _ _ =>
    (of_decide_eq_true (hfirst first hmem)).trans (of_decide_eq_true (hfirst second hother)).symm
  rwa [List.filter_eq_self.2 fun item hitem => hfirst item (mem_inOrder.1 hitem),
    List.filter_eq_self.2 hfirst] at hkept

/-! ### Joining -/

/-- Where a group stops that is joined with more items. -/
def stopWith (window : α → Span) (stop : Nat) (items : List α) : Nat :=
  items.foldl (fun stop item => max stop (window item).stop) stop

theorem stopWith_perm (horder : order.Perm items) (stop : Nat) :
    stopWith window stop order = stopWith window stop items := by
  have : RightCommutative fun stop (item : α) => max stop (window item).stop :=
    ⟨fun stop first second => by omega⟩
  exact horder.foldl_eq stop

/-- Items whose windows start at the first position are joined with the first group. -/
theorem join_of_isFirst {first : List α} (hfirst : ∀ item ∈ first, isFirst window item = true)
    (before rest : List α) (stop : Nat) :
    join window ⟨before, ⟨0, stop⟩⟩ (first ++ rest) =
      join window ⟨before ++ first, ⟨0, stopWith window stop first⟩⟩ rest := by
  induction first generalizing before stop with
  | nil =>
      rw [List.append_nil]
      rfl
  | cons item first ih =>
      obtain ⟨hitem, hothers⟩ := List.forall_mem_cons.1 hfirst
      have hzero : (window item).start = 0 := of_decide_eq_true hitem
      have htouch : ¬stop < (window item).start := by omega
      rw [List.cons_append, join, if_neg htouch, ih hothers, List.append_assoc]
      rfl

/-- The items of the first group have no influence on what is joined with them. -/
theorem exists_join_eq (window : α → Span) (span : Span) (rest : List α) :
    ∃ more stretch groups, ∀ before : List α, before ≠ [] →
      join window ⟨before, span⟩ rest = ⟨before ++ more, stretch⟩ :: groups := by
  induction rest generalizing span with
  | nil => exact ⟨[], span, [], fun before hbefore => by simp [join, hbefore]⟩
  | cons item rest ih =>
      by_cases hgap : span.stop < (window item).start
      · refine ⟨[], span, join window
          ⟨[item], ⟨(window item).start, max span.stop (window item).stop⟩⟩ rest, ?_⟩
        intro before hbefore
        simp [join, hgap, hbefore]
      · obtain ⟨more, stretch, groups, hjoin⟩ := ih ⟨span.start, max span.stop (window item).stop⟩
        refine ⟨item :: more, stretch, groups, fun before hbefore => ?_⟩
        rw [join, if_neg hgap, hjoin _ (by simp), List.append_assoc]
        rfl

/-- However items were added, the groups have the same spans, and the first group begins with the
items whose windows start at the first position, as they were added. -/
theorem exists_ofItems_eq (hapart : AreApart window items) (hitems : items ≠ []) :
    ∃ more stretch groups, ∀ order, order.Perm items →
      ofItems window order = ⟨order.filter (isFirst window) ++ more, stretch⟩ :: groups := by
  by_cases hnone : items.filter (isFirst window) = []
  · have hfirst : ∀ order : List α, order.Perm items → order.filter (isFirst window) = [] := by
      intro order horder
      have hperm := horder.filter (isFirst window)
      rw [hnone] at hperm
      exact hperm.eq_nil
    cases hlater : later window items with
    | nil =>
        have hempty := inOrder_eq hapart (.refl items)
        rw [hnone, hlater] at hempty
        have hperm := inOrder_perm window items
        rw [hempty] at hperm
        exact absurd hperm.nil_eq.symm hitems
    | cons item rest =>
        obtain ⟨more, stretch, groups, hjoin⟩ := exists_join_eq window (window item) rest
        refine ⟨item :: more, stretch, groups, fun order horder => ?_⟩
        rw [ofItems, inOrder_eq hapart horder, hfirst order horder, hlater, List.nil_append,
          join_empty, hjoin [item] (List.cons_ne_nil _ _)]
        rfl
  · obtain ⟨more, stretch, groups, hjoin⟩ := exists_join_eq window
      ⟨0, stopWith window 0 (items.filter (isFirst window))⟩ (later window items)
    refine ⟨more, stretch, groups, fun order horder => ?_⟩
    have hperm := horder.filter (isFirst window)
    have hfirst : order.filter (isFirst window) ≠ [] := fun hnil =>
      hnone (by rw [hnil] at hperm; exact hperm.nil_eq.symm)
    rw [ofItems, inOrder_eq hapart horder, Span.emptyAt,
      join_of_isFirst (fun item hitem => (List.mem_filter.1 hitem).2), List.nil_append,
      stopWith_perm hperm]
    exact hjoin _ hfirst

end Group

/-! ## Snippets on different lines -/

/-- The window of a snippet near the beginning of a source starts with the first line. -/
theorem Snippet.isFirst_window (contextLines : Nat) (source : Source) (snippet : Snippet) :
    Group.isFirst (Snippet.window contextLines source) snippet =
      decide (snippet.line source ≤ contextLines) := by
  have hstart : (Snippet.window contextLines source snippet).start =
      snippet.line source - contextLines := rfl
  rw [Group.isFirst, hstart]
  exact decide_eq_decide.2 Nat.sub_eq_zero_iff_le

/-- The first item of a stretch that begins with such snippets, as they were added. -/
theorem Snippet.head?_filter_append (contextLines : Nat) (source : Source)
    (order more : List Snippet) :
    (order.filter (Group.isFirst (Snippet.window contextLines source)) ++ more).head? =
      (order.find? fun snippet => snippet.line source ≤ contextLines).or more.head? := by
  rw [List.head?_append, List.head?_filter, funext (isFirst_window contextLines source)]

section

variable (hlines : (snippets.map (Snippet.line source)).Nodup)
include hlines

theorem Snippet.areApart_window (contextLines : Nat) :
    Group.AreApart (Snippet.window contextLines source) snippets := by
  intro first hfirst second hsecond hlow hstart
  have hne : ¬first.line source - contextLines = 0 := of_decide_eq_false hlow
  have hstart : first.line source - contextLines = second.line source - contextLines := hstart
  exact List.inj_on_of_nodup_map hlines hfirst hsecond (by omega)

/-- Of snippets on different lines at most one starts on a line. -/
theorem Snippet.filter_line_of_perm (horder : order.Perm snippets) (line : Nat) :
    (order.filter fun snippet => snippet.line source = line) =
      snippets.filter fun snippet => snippet.line source = line := by
  have hsorted : ∀ added : List Snippet,
      (added.filter fun snippet => snippet.line source = line).Pairwise fun first second =>
        first.line source = second.line source := by
    intro added
    refine List.pairwise_of_forall_mem_list fun first hfirst second hsecond => ?_
    have hfirst : first.line source = line := of_decide_eq_true (List.mem_filter.1 hfirst).2
    have hsecond : second.line source = line := of_decide_eq_true (List.mem_filter.1 hsecond).2
    exact hfirst.trans hsecond.symm
  refine List.Perm.eq_of_pairwise ?_ (hsorted order) (hsorted snippets) (horder.filter _)
  intro first second hfirst hsecond heq _
  exact List.inj_on_of_nodup_map hlines (horder.mem_iff.1 (List.mem_filter.1 hfirst).1)
    (List.mem_filter.1 hsecond).1 heq

end

namespace View

variable {id : Nat} {stretches : List (Group Snippet)}

section

variable (hfilter : ∀ line, (order.filter fun snippet => snippet.line source = line) =
  snippets.filter fun snippet => snippet.line source = line)
include hfilter

/-- Under each line stand the snippets that start on it. -/
theorem segments_congr (screen : Screen) (theme : Theme) (severity : Severity) (id : Nat)
    (stretches : List (Group Snippet)) :
    (View.mk id source order stretches).segments screen theme severity =
      (View.mk id source snippets stretches).segments screen theme severity := by
  have hrows : source.lineRows screen order = source.lineRows screen snippets :=
    funext fun line => by rw [Source.lineRows, Source.lineRows, hfilter]
  simp only [segments, rows, hrows]

theorem faults_congr (screen : Screen) (id : Nat) (stretches : List (Group Snippet)) :
    (View.mk id source order stretches).faults screen =
      (View.mk id source snippets stretches).faults screen := by
  simp only [faults, underlined, lines, hfilter]

end

/-- Of the items of a stretch only the first one matters to what is shown. -/
theorem exists_segments_cons (screen : Screen) (theme : Theme) (severity : Severity) (id : Nat)
    (source : Source) (snippets : List Snippet) (stretch : Span) (groups : List (Group Snippet)) :
    ∃ fieldWidth back, ∀ items,
      (View.mk id source snippets (⟨items, stretch⟩ :: groups)).segments screen theme severity =
        (items.head?.map (Excerpt.headingOf source)).toList.flatMap
          (Row.segments theme severity fieldWidth) ++ back := by
  refine ⟨(Excerpt.ofSnippets source [] stretch).fieldWidth,
    (stretch.positions.flatMap (source.lineRows screen snippets) ++ [Row.blank]).flatMap
      (Row.segments theme severity (Excerpt.ofSnippets source [] stretch).fieldWidth) ++
    (View.mk id source snippets groups).segments screen theme severity, fun items => ?_⟩
  rw [segments, List.flatMap_cons, rows, List.append_assoc, List.flatMap_append, List.append_assoc]
  rfl

end View

/-! ## Reports on one source -/

namespace Report

variable {id : Nat}

/-- A report on one source has one view. -/
theorem views_of_one_source (theme : Theme) (hsource : sources[id]? = some source)
    (hinside : ∀ snippet ∈ report.snippets,
      snippet.source = id ∧ snippet.span.start ≤ source.byteLength)
    (hsnippets : report.snippets ≠ []) :
    report.views theme sources = [⟨id, source, report.snippets,
      Group.ofItems (Snippet.window theme.contextLines source) report.snippets⟩] := by
  have hshown : report.shown sources = report.snippets := by
    refine List.filter_eq_self.2 fun snippet hsnippet => Snippet.isShown_iff.2 ⟨source, ?_⟩
    obtain ⟨hid, hstart⟩ := hinside snippet hsnippet
    exact ⟨hid ▸ hsource, hstart⟩
  have hids : ((report.shown sources).map Snippet.source).eraseDups = [id] := by
    obtain ⟨first, rest, hcons⟩ := List.exists_cons_of_ne_nil hsnippets
    rw [hcons] at hinside
    obtain ⟨hfirst, hrest⟩ := List.forall_mem_cons.1 hinside
    have hnone : (rest.map Snippet.source).filter (fun other => !other == id) = [] := by
      refine List.filter_eq_nil_iff.2 fun other hother => ?_
      obtain ⟨snippet, hsnippet, rfl⟩ := List.mem_map.1 hother
      simp [(hrest snippet hsnippet).1]
    rw [hshown, hcons, List.map_cons, List.eraseDups_cons, hfirst.1, hnone]
    rfl
  have hmarked := Marked.areMarked_ofSnippets sources report.snippets
  obtain ⟨entry, hentries, hid⟩ := List.map_eq_singleton_iff.1 (hmarked.ids.trans hids)
  have hentry := hmarked.source entry (hentries ▸ List.mem_singleton_self entry)
  have hsame : entry.source = source := by
    rw [hid, hsource] at hentry
    exact (Option.some.inj hentry).symm
  have hall : (report.snippets.filter fun snippet => snippet.source = id) = report.snippets :=
    List.filter_eq_self.2 fun snippet hsnippet => decide_eq_true (hinside snippet hsnippet).1
  rw [views, hentries, List.map_singleton, view, hid, hsame, hshown, hall]

/-- A heading as it is printed; the field for line numbers does not matter to it. -/
def printedHeading (theme : Theme) (color : Bool) (severity : Severity) (source : Source)
    (first : Snippet) : String :=
  Segment.write color ((Excerpt.headingOf source first).segments theme severity 0)

theorem write_headings (theme : Theme) (color : Bool) (severity : Severity) (source : Source)
    (fieldWidth : Nat) (first : Option Snippet) :
    Segment.write color ((first.map (Excerpt.headingOf source)).toList.flatMap
        (Row.segments theme severity fieldWidth)) =
      (first.map (printedHeading theme color severity source)).getD "" := by
  cases first with
  | none => rfl
  | some first =>
      rw [Option.map_some, Option.toList_some, List.flatMap_singleton]
      rfl

section

variable (hsource : sources[id]? = some source)
  (hinside : ∀ snippet ∈ report.snippets,
    snippet.source = id ∧ snippet.span.start ≤ source.byteLength)
  (hlines : (report.snippets.map (Snippet.line source)).Nodup)
include hsource hinside hlines

/-- The snippets have an influence on the first heading only: its place is that of the first snippet
whose window starts with the first line, or else one that does not depend on the order. -/
theorem exists_renderOn_reordered (screen : Screen) (theme : Theme) (color : Bool) :
    ∃ (faults : List Fault) (back : String) (other : Option Snippet),
      ∀ order : List Snippet, order.Perm report.snippets →
        { report with snippets := order }.renderOn screen theme sources color =
          outcome faults (Segment.write color (report.header theme) ++
            (((order.find? fun snippet => snippet.line source ≤ theme.contextLines).or other).map
              (printedHeading theme color report.severity source)).getD "" ++ back) := by
  by_cases hnone : report.snippets = []
  · refine ⟨[], Segment.write color (report.noteSegments theme), none, fun order horder => ?_⟩
    rw [hnone] at horder
    obtain rfl := horder.eq_nil
    rw [renderOn_eq, Segment.write_append, Segment.write_append]
    rfl
  · obtain ⟨more, stretch, groups, hgroups⟩ :=
      Group.exists_ofItems_eq (Snippet.areApart_window hlines theme.contextLines) hnone
    obtain ⟨fieldWidth, rest, hsegments⟩ := View.exists_segments_cons screen theme report.severity id
      source report.snippets stretch groups
    refine ⟨(View.mk id source report.snippets (⟨more, stretch⟩ :: groups)).faults screen,
      Segment.write color rest ++ Segment.write color (report.noteSegments theme), more.head?,
      fun order horder => ?_⟩
    have horderNone : order ≠ [] := by
      rintro rfl
      exact hnone horder.nil_eq.symm
    have hviews : { report with snippets := order }.views theme sources =
        [⟨id, source, order,
          ⟨order.filter (Group.isFirst (Snippet.window theme.contextLines source)) ++ more,
            stretch⟩ :: groups⟩] := by
      rw [views_of_one_source theme hsource
        (fun snippet hsnippet => hinside snippet (horder.mem_iff.1 hsnippet)) horderNone,
        hgroups order horder]
    have hfilter := Snippet.filter_line_of_perm hlines horder
    have hfaults : { report with snippets := order }.faults screen theme sources =
        (View.mk id source report.snippets (⟨more, stretch⟩ :: groups)).faults screen := by
      rw [faults, hviews, List.flatMap_singleton, View.faults_congr hfilter]
      rfl
    rw [renderOn_eq, hfaults, hviews, List.flatMap_singleton, View.segments_congr hfilter,
      hsegments, Snippet.head?_filter_append, Segment.write_append, Segment.write_append,
      Segment.write_append, write_headings]
    simp only [String.append_assoc]
    rfl

/-- A report with snippets on different lines of one source is shown in the same way in any order
of these snippets, but for the place in the first heading.  It is that of the snippet that comes
first among those whose windows start with the first line, and does not change as long as this one
stays the same, as it does where there are not several of them. -/
theorem renderOn_reordered (screen : Screen) (theme : Theme) (color : Bool) :
    (∃ (faults : List Fault) (back : String),
      ∀ order : List Snippet, order.Perm report.snippets →
        ∀ first ∈ order.find? fun snippet => snippet.line source ≤ theme.contextLines,
          { report with snippets := order }.renderOn screen theme sources color =
            outcome faults (Segment.write color (report.header theme) ++
              printedHeading theme color report.severity source first ++ back)) ∧
    (∀ order : List Snippet, order.Perm report.snippets →
      (order.find? fun snippet => snippet.line source ≤ theme.contextLines) =
        (report.snippets.find? fun snippet => snippet.line source ≤ theme.contextLines) →
      { report with snippets := order }.renderOn screen theme sources color =
        report.renderOn screen theme sources color) ∧
    ((report.snippets.filter fun snippet => snippet.line source ≤ theme.contextLines).length ≤ 1 →
      ∀ order : List Snippet, order.Perm report.snippets →
        { report with snippets := order }.renderOn screen theme sources color =
          report.renderOn screen theme sources color) := by
  obtain ⟨faults, back, other, hrender⟩ :=
    exists_renderOn_reordered hsource hinside hlines screen theme color
  have hsame : ∀ order : List Snippet, order.Perm report.snippets →
      (order.find? fun snippet => snippet.line source ≤ theme.contextLines) =
        (report.snippets.find? fun snippet => snippet.line source ≤ theme.contextLines) →
      { report with snippets := order }.renderOn screen theme sources color =
        report.renderOn screen theme sources color := by
    intro order horder hfirst
    rw [hrender order horder, hfirst]
    exact (hrender report.snippets (.refl _)).symm
  refine ⟨⟨faults, back, fun order horder first hfirst => ?_⟩, hsame, fun hlength order horder => ?_⟩
  · rw [hrender order horder, Option.mem_def.1 hfirst]
    rfl
  · refine hsame order horder ?_
    have hperm := horder.filter fun snippet => decide (snippet.line source ≤ theme.contextLines)
    rw [← List.head?_filter, ← List.head?_filter]
    -- A list of at most one snippet has one order only.
    generalize (report.snippets.filter fun snippet =>
      decide (snippet.line source ≤ theme.contextLines)) = near at hperm hlength
    match near, hlength with
    | [], _ => rw [hperm.eq_nil]
    | [first], _ => rw [hperm.eq_singleton]

end

/-- Snippets on the first line and on the fourth, with one line of context. -/
theorem renderOn_reordered_apart :
    let source := Source.ofText "t" "a\nb\nc\nd"
    let snippets : List Snippet := [⟨"d", .primary, 0, ⟨6, 7⟩⟩, ⟨"a", .secondary, 0, ⟨0, 1⟩⟩]
    let report : Report := ⟨.error, none, snippets, []⟩
    (([source][0]? = some source ∧
      ∀ snippet ∈ snippets, snippet.source = 0 ∧ snippet.span.start ≤ source.byteLength) ∧
      (snippets.map (Snippet.line source)).Nodup) ∧
    (snippets.filter fun snippet => snippet.line source ≤ 1).length ≤ 1 ∧
    { report with snippets := snippets.reverse }.renderOn .standard {} [source] false =
      report.renderOn .standard {} [source] false := by
  intro source snippets report
  have hinside : ∀ snippet ∈ snippets,
      snippet.source = 0 ∧ snippet.span.start ≤ source.byteLength := by decide
  have hlines : (snippets.map (Snippet.line source)).Nodup := by decide
  have hlength : (snippets.filter fun snippet => snippet.line source ≤ 1).length ≤ 1 := by decide
  exact ⟨⟨⟨rfl, hinside⟩, hlines⟩, hlength,
    (@renderOn_reordered [source] source report 0 rfl hinside hlines .standard {} false).2.2
      hlength snippets.reverse (List.reverse_perm snippets)⟩

/-- Snippets on the first two lines, whose windows both start with the first: the heading has the
place of the one that was added first. -/
theorem render_reordered_together :
    let source := Source.ofText "t" "a\nb"
    let first : Snippet := ⟨"", .primary, 0, ⟨0, 1⟩⟩
    let second : Snippet := ⟨"", .primary, 0, ⟨2, 3⟩⟩
    ((∀ snippet ∈ [first, second],
        snippet.source = 0 ∧ snippet.span.start ≤ source.byteLength) ∧
      ([first, second].map (Snippet.line source)).Nodup ∧ [second, first].Perm [first, second]) ∧
    Report.render {} [source] false ⟨.error, none, [first, second], []⟩ =
      .ok "Error:\nIn t:1:1\n1 │ a\n  │ ^ \n2 │ b\n  │ ^ \n\n" ∧
    Report.render {} [source] false ⟨.error, none, [second, first], []⟩ =
      .ok "Error:\nIn t:2:1\n1 │ a\n  │ ^ \n2 │ b\n  │ ^ \n\n" ∧
    Report.render {} [source] false ⟨.error, none, [second, first], []⟩ ≠
      Report.render {} [source] false ⟨.error, none, [first, second], []⟩ := by
  intro source first second
  have hviews : ∀ order ∈ [[first, second], [second, first]],
      Report.views {} [source] ⟨.error, none, order, []⟩ =
        [⟨0, source, order,
          Group.join (Snippet.window 1 source) ⟨[], .emptyAt 0⟩ order⟩] := by
    intro order horder
    have hinside : ∀ order ∈ [[first, second], [second, first]], ∀ snippet ∈ order,
        snippet.source = 0 ∧ snippet.span.start ≤ source.byteLength := by decide
    have hsnippets : ∀ order ∈ [[first, second], [second, first]], order ≠ [] := by decide
    have hfirst : ∀ order ∈ [[first, second], [second, first]], ∀ snippet ∈ order,
        Group.isFirst (Snippet.window 1 source) snippet = true := by decide
    have hview := @views_of_one_source [source] source ⟨.error, none, order, []⟩ 0 {} rfl
      (hinside order horder) (hsnippets order horder)
    rw [hview, Group.ofItems, Group.inOrder_of_isFirst (hfirst order horder)]
  have hordered : Report.render {} [source] false ⟨.error, none, [first, second], []⟩ =
      .ok "Error:\nIn t:1:1\n1 │ a\n  │ ^ \n2 │ b\n  │ ^ \n\n" := by
    rw [render, renderOn_eq, faults, hviews _ (by decide)]
    decide +kernel
  have hswapped : Report.render {} [source] false ⟨.error, none, [second, first], []⟩ =
      .ok "Error:\nIn t:2:1\n1 │ a\n  │ ^ \n2 │ b\n  │ ^ \n\n" := by
    rw [render, renderOn_eq, faults, hviews _ (by decide)]
    decide +kernel
  refine ⟨⟨by decide, by decide, .swap first second []⟩, hordered, hswapped, ?_⟩
  rw [hordered, hswapped]
  decide

end Report

end TinyC
