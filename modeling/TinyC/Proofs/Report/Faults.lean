import TinyC.Proofs.Report.Rendering

/-!
# What keeps a report from being shown

On a screen with fields of any width, a report is shown unless a snippet in it
starts or ends, as far as its line goes, inside a character.  Nothing else in a
report does any harm: its snippets may be reversed, go over several lines, reach
beyond the text or belong to no source, and any number of lines may be shown
around them.

## Strategy

The faults of a report are those of the snippets that are shown, so a report fails
exactly if one of these has a fault, and without a limit on the width of fields
there is only one kind.  That no other look-up fails on the way is said of every
excerpt: it has a mark, its lines exist, and each mark lies on its line.
-/

namespace TinyC

variable {theme : Theme} {sources : List Source} {source : Source} {snippet : Snippet}
  {report : Report}

/-! ## Bounds inside characters -/

/-- A bound of the snippet lies inside a character of the line on which the snippet starts, after
both have been moved onto this line and the end behind the start. -/
def Snippet.SplitsCharacter (source : Source) (snippet : Snippet) : Prop :=
  ∃ line start text, source.lineIndex? snippet.span.start = some line ∧
    source.lineStart? line = some start ∧ source.line? line = some text ∧
    let first := min (snippet.span.start - start) (Text.byteLength text)
    let last := max first (min (snippet.span.stop - start) (Text.byteLength text))
    Text.isBoundary first text = false ∨ Text.isBoundary last text = false

namespace Snippet

theorem lineIndex?_eq_line (hstart : snippet.span.start ≤ source.byteLength) :
    source.lineIndex? snippet.span.start = some (snippet.line source) := by
  rw [Source.lineIndex?_eq, if_pos hstart]
  rfl

theorem splitsCharacter_iff (hstart : snippet.span.start ≤ source.byteLength) :
    snippet.SplitsCharacter source ↔ ¬snippet.IsBetween source := by
  obtain ⟨htext, hlineStart, -⟩ := exists_line hstart
  have hindex := lineIndex?_eq_line hstart
  rw [IsBetween, not_and_or, Bool.not_eq_true, Bool.not_eq_true]
  constructor
  · rintro ⟨line, start, text, hline, hfound, hshown, hsplit⟩
    obtain rfl := Option.some.inj (hindex.symm.trans hline)
    obtain rfl := Option.some.inj (hlineStart.symm.trans hfound)
    obtain rfl := Option.some.inj (htext.symm.trans hshown)
    exact hsplit
  · intro hsplit
    exact ⟨_, _, _, hindex, hlineStart, htext, hsplit⟩

/-- Where fields can be as wide as they need to be, only the bounds matter. -/
theorem mem_faults_unlimited {width : List Char → Nat} {fault : Fault} :
    fault ∈ snippet.faults ⟨width, none⟩ source ↔
      ¬snippet.IsBetween source ∧ fault = .insideCharacter := by
  rw [faults]
  by_cases hbetween : snippet.IsBetween source
  · have hfits : snippet.fits ⟨width, none⟩ source = true := rfl
    rw [if_neg (not_not.2 hbetween), if_pos hfits]
    simp [hbetween]
  · rw [if_pos hbetween, List.mem_singleton]
    exact (and_iff_right hbetween).symm

end Snippet

/-! ## What excerpts are drawn from -/

/-- Everything that an excerpt is drawn from exists. -/
structure Excerpt.IsReadable (excerpt : Excerpt) : Prop where
  marks_ne_nil : excerpt.marks ≠ []
  exists_line : ∀ line ∈ excerpt.lines.positions, ∃ start text,
    excerpt.source.lineStart? line = some start ∧ excerpt.source.line? line = some text
  /-- Marks do not start before their lines. -/
  exists_start : ∀ mark ∈ excerpt.marks, ∃ start,
    excerpt.source.lineIndex? mark.span.start = some mark.line ∧
      excerpt.source.lineStart? mark.line = some start ∧ start ≤ mark.span.start

namespace Report

theorem isReadable_of_mem_excerpts {excerpt : Excerpt}
    (hexcerpt : excerpt ∈ report.excerpts theme sources) : excerpt.IsReadable := by
  rw [excerpts_eq] at hexcerpt
  obtain ⟨pair, hpair, rfl⟩ := List.mem_map.1 hexcerpt
  obtain ⟨view, hview, hpair⟩ := List.mem_flatMap.1 hpair
  obtain ⟨stretch, hstretch, rfl⟩ := List.mem_map.1 hpair
  have hisOf := View.isOf_of_mem hview
  refine ⟨?_, ?_, ?_⟩
  · exact List.map_eq_nil_iff.not.2 (hisOf.areStretches.isStretch stretch hstretch).items_ne_nil
  · intro line hline
    have hstop := hisOf.stop_le hstretch
    have hcontains := Span.contains_iff.1 (Span.mem_positions.1 hline)
    obtain ⟨head, text, tail, hisLine⟩ := Source.exists_isLine_of_lt (hcontains.2.trans_le hstop)
    exact ⟨_, _, Source.lineStart?_of_isLine hisLine, Source.line?_of_isLine hisLine⟩
  · intro mark hmark
    obtain ⟨snippet, hsnippet, rfl⟩ := List.mem_map.1 hmark
    obtain ⟨-, -, hstart⟩ := hisOf.start_le (hisOf.mem_snippets hstretch hsnippet)
    obtain ⟨-, hlineStart, hlow⟩ := Snippet.exists_line hstart
    exact ⟨_, Snippet.lineIndex?_eq_line hstart, hlineStart, hlow⟩

/-! ## Exactly when a report is shown -/

/-- Where fields can be as wide as they need to be, every fault is a bound inside a character of a
snippet that is shown. -/
theorem mem_faults_unlimited {width : List Char → Nat} {fault : Fault} :
    fault ∈ report.faults ⟨width, none⟩ theme sources ↔
      fault = .insideCharacter ∧ ∃ snippet ∈ report.snippets, ∃ source,
        sources[snippet.source]? = some source ∧ snippet.span.start ≤ source.byteLength ∧
          snippet.SplitsCharacter source := by
  rw [mem_faults]
  constructor
  · rintro ⟨snippet, hshown, source, hsource, hfault⟩
    obtain ⟨hbetween, hfault⟩ := Snippet.mem_faults_unlimited.1 hfault
    obtain ⟨hmem, hshown⟩ := List.mem_filter.1 hshown
    obtain ⟨other, hother, hstart⟩ := Snippet.isShown_iff.1 hshown
    obtain rfl := Option.some.inj (hsource.symm.trans hother)
    exact ⟨hfault, snippet, hmem, source, hsource, hstart,
      (Snippet.splitsCharacter_iff hstart).2 hbetween⟩
  · rintro ⟨hfault, snippet, hmem, source, hsource, hstart, hsplits⟩
    have hshown : snippet ∈ report.shown sources :=
      List.mem_filter.2 ⟨hmem, Snippet.isShown_iff.2 ⟨source, hsource, hstart⟩⟩
    have hbetween := (Snippet.splitsCharacter_iff hstart).1 hsplits
    exact ⟨snippet, hshown, source, hsource, Snippet.mem_faults_unlimited.2 ⟨hbetween, hfault⟩⟩

/-- A report fails with the first of its faults. -/
theorem renderOn_eq_error_iff {screen : Screen} {color : Bool} {fault : Fault} :
    report.renderOn screen theme sources color = .error fault ↔
      (report.faults screen theme sources).head? = some fault := by
  rw [renderOn_eq]
  cases report.faults screen theme sources with
  | nil => exact iff_of_false nofun nofun
  | cons first others =>
      rw [outcome, List.head?_cons, Except.error.injEq, Option.some.injEq]

theorem exists_renderOn_eq_ok_iff {screen : Screen} {color : Bool} :
    (∃ text, report.renderOn screen theme sources color = .ok text) ↔
      report.faults screen theme sources = [] := by
  rw [renderOn_eq]
  cases report.faults screen theme sources with
  | nil => exact iff_of_true ⟨_, rfl⟩ rfl
  | cons first others => exact iff_of_false nofun (List.cons_ne_nil _ _)

/-- On a screen with fields of any width, a report fails exactly if a snippet that starts inside an
existing source has a bound inside a character, and it is shown otherwise.  Whatever it is drawn
from exists, and no mark starts before its line. -/
theorem renderOn_fails_iff (width : List Char → Nat) (theme : Theme) (sources : List Source)
    (color : Bool) (report : Report) :
    let IsSplit := ∃ snippet ∈ report.snippets, ∃ source, sources[snippet.source]? = some source ∧
      snippet.span.start ≤ source.byteLength ∧ snippet.SplitsCharacter source
    (∀ excerpt ∈ report.excerpts theme sources, excerpt.IsReadable) ∧
      (report.renderOn ⟨width, none⟩ theme sources color = .error .insideCharacter ↔ IsSplit) ∧
      ((∃ text, report.renderOn ⟨width, none⟩ theme sources color = .ok text) ↔ ¬IsSplit) := by
  intro IsSplit
  have hmem : ∀ fault, fault ∈ report.faults ⟨width, none⟩ theme sources ↔
      fault = .insideCharacter ∧ IsSplit := fun fault => mem_faults_unlimited
  refine ⟨fun excerpt hexcerpt => isReadable_of_mem_excerpts hexcerpt, ?_, ?_⟩
  · rw [renderOn_eq_error_iff]
    constructor
    · intro hfirst
      exact ((hmem _).1 (List.mem_of_head? hfirst)).2
    · intro hsplit
      have hfault := (hmem _).2 ⟨rfl, hsplit⟩
      cases hfaults : report.faults ⟨width, none⟩ theme sources with
      | nil => rw [hfaults] at hfault; cases hfault
      | cons first others =>
          have hfirst := (hmem first).1 (by rw [hfaults]; exact List.mem_cons_self)
          rw [List.head?_cons, hfirst.1]
  · rw [exists_renderOn_eq_ok_iff, List.eq_nil_iff_forall_not_mem]
    constructor
    · exact fun hnone hsplit => hnone _ ((hmem _).2 ⟨rfl, hsplit⟩)
    · exact fun hsplit fault hfault => hsplit ((hmem fault).1 hfault).2

/-- A snippet that ends inside a character, and one that is reversed and would do so if its end
were not moved behind its start. -/
theorem renderOn_fails_iff_accent :
    let sources := [Source.ofText "t" "aé\nb"]
    let inside : Report := ⟨.error, none, [⟨"", .primary, 0, ⟨0, 2⟩⟩], []⟩
    let reversed : Report :=
      ⟨.error, none, [⟨"", .primary, 0, ⟨3, 2⟩⟩, ⟨"", .secondary, 1, ⟨2, 2⟩⟩], []⟩
    inside.renderOn ⟨Text.width, none⟩ {} sources false = .error .insideCharacter ∧
      ∃ text, reversed.renderOn ⟨Text.width, none⟩ {} sources false = .ok text := by
  intro sources inside reversed
  have hinside := renderOn_fails_iff Text.width {} sources false inside
  have hreversed := renderOn_fails_iff Text.width {} sources false reversed
  refine ⟨hinside.2.1.2 ?_, hreversed.2.2.2 ?_⟩
  · exact ⟨_, List.mem_singleton_self _, _, rfl, by decide, 0, 0, ['a', 'é'], by decide, by decide,
      by decide, .inr (by decide)⟩
  · rintro ⟨snippet, hsnippet, source, hsource, -, line, start, text, hline, hstart, htext, hsplit⟩
    rcases List.mem_cons.1 hsnippet with rfl | hsnippet
    · obtain rfl := Option.some.inj hsource
      obtain rfl : 0 = line := Option.some.inj hline
      obtain rfl : 0 = start := Option.some.inj hstart
      obtain rfl : ['a', 'é'] = text := Option.some.inj htext
      revert hsplit
      decide
    · obtain rfl := List.mem_singleton.1 hsnippet
      cases hsource

end Report

end TinyC
