import TinyC.Proofs.Source
import TinyC.Report.Excerpt

/-!
# The marks of a report

A snippet is shown if its source exists and the snippet starts inside it, at the
end at the latest.  Of each source with such a snippet there is one list of marks:
those of its snippets, in the order in which they stand in the report.  The
sources follow each other as their first snippets do.
-/

namespace TinyC

variable {sources : List Source} {snippets : List Snippet} {source : Source} {snippet : Snippet}

/-! ## Snippets that are shown -/

namespace Snippet

/-- Whether the source of the snippet exists and the snippet starts inside it. -/
def isShown (sources : List Source) (snippet : Snippet) : Bool :=
  sources[snippet.source]?.any fun source => snippet.span.start ≤ source.byteLength

/-- The number of line feeds before the start of the snippet. -/
def line (source : Source) (snippet : Snippet) : Nat :=
  Text.lineFeedsBefore source.text snippet.span.start

/-- The mark of a snippet that starts inside its source. -/
def mark (source : Source) (snippet : Snippet) : Mark :=
  ⟨snippet.label, snippet.role, snippet.span, snippet.line source⟩

theorem isShown_iff :
    snippet.isShown sources = true ↔
      ∃ source, sources[snippet.source]? = some source ∧
        snippet.span.start ≤ source.byteLength := by
  rw [isShown, Option.any_eq_true_iff_get]
  constructor
  · rintro ⟨hsome, hstart⟩
    exact ⟨_, (Option.some_get hsome).symm, of_decide_eq_true hstart⟩
  · rintro ⟨source, hsource, hstart⟩
    simp [hsource, hstart]

theorem mark?_eq (source : Source) (snippet : Snippet) :
    snippet.mark? source =
      if snippet.span.start ≤ source.byteLength then some (snippet.mark source) else none := by
  rw [mark?, Source.lineIndex?_eq]
  split <;> rfl

/-- A snippet that is shown starts on a line of its source. -/
theorem line_lt_lineCount (hstart : snippet.span.start ≤ source.byteLength) :
    snippet.line source < source.lineCount := by
  obtain ⟨index, head, line, tail, hline, hlow, hhigh⟩ := Text.exists_isLine_of_byte hstart
  rw [Snippet.line, Text.lineFeedsBefore_eq, hline.count_upTo hlow hhigh]
  exact Source.index_lt_of_isLine hline

end Snippet

/-! ## Sources with marks -/

namespace Marked

variable {id : Nat} {mark : Mark} {marked : List Marked} {entry : Marked}

/-- Only a source without marks so far is new. -/
theorem map_id_add :
    (add id source mark marked).map Marked.id =
      if id ∈ marked.map Marked.id then marked.map Marked.id else marked.map Marked.id ++ [id] := by
  induction marked with
  | nil => simp [add]
  | cons first rest ih =>
      rw [add]
      by_cases hfirst : first.id = id
      · simp [hfirst]
      · rw [if_neg hfirst, List.map_cons, ih]
        by_cases hid : id ∈ rest.map Marked.id <;> simp [hid, Ne.symm hfirst]

/-- A mark is added to the source it belongs to and to no other. -/
theorem mem_add (hnodup : (marked.map Marked.id).Nodup) (hmem : entry ∈ add id source mark marked) :
    (entry ∈ marked ∧ entry.id ≠ id) ∨
      (∃ old ∈ marked, old.id = id ∧ entry = { old with marks := old.marks ++ [mark] }) ∨
      (id ∉ marked.map Marked.id ∧ entry = ⟨id, source, [mark]⟩) := by
  induction marked with
  | nil => exact .inr (.inr ⟨List.not_mem_nil, List.mem_singleton.1 hmem⟩)
  | cons first rest ih =>
      obtain ⟨hfirst, hrest⟩ := List.nodup_cons.1 hnodup
      rw [add] at hmem
      by_cases hid : first.id = id
      · rw [if_pos hid] at hmem
        rcases List.mem_cons.1 hmem with rfl | hmem
        · exact .inr (.inl ⟨first, List.mem_cons_self, hid, rfl⟩)
        · refine .inl ⟨List.mem_cons_of_mem _ hmem, fun heq => hfirst ?_⟩
          rw [hid, ← heq]
          exact List.mem_map_of_mem hmem
      · rw [if_neg hid] at hmem
        rcases List.mem_cons.1 hmem with rfl | hmem
        · exact .inl ⟨List.mem_cons_self, hid⟩
        · rcases ih hrest hmem with ⟨hmem, hne⟩ | ⟨old, hold, heq, rfl⟩ | ⟨hnone, rfl⟩
          · exact .inl ⟨List.mem_cons_of_mem _ hmem, hne⟩
          · exact .inr (.inl ⟨old, List.mem_cons_of_mem _ hold, heq, rfl⟩)
          · exact .inr (.inr ⟨by simp [hnone, Ne.symm hid], rfl⟩)

/-- Each source of a snippet that is shown has the marks of its snippets. -/
structure AreMarked (sources : List Source) (snippets : List Snippet) (marked : List Marked) :
    Prop where
  ids : marked.map Marked.id =
    ((snippets.filter (Snippet.isShown sources)).map Snippet.source).eraseDups
  nodup : (marked.map Marked.id).Nodup
  source : ∀ entry ∈ marked, sources[entry.id]? = some entry.source
  marks : ∀ entry ∈ marked, entry.marks =
    ((snippets.filter (Snippet.isShown sources)).filter fun snippet =>
      snippet.source = entry.id).map (Snippet.mark entry.source)

theorem eraseDups_append_singleton (ids : List Nat) (id : Nat) :
    (ids ++ [id]).eraseDups = if id ∈ ids then ids.eraseDups else ids.eraseDups ++ [id] := by
  rw [List.eraseDups_append]
  by_cases hid : id ∈ ids <;> simp [List.removeAll, hid, List.eraseDups_cons]

/-- One more snippet that is shown has its mark at the end of those of its source. -/
theorem AreMarked.append_shown (hmarked : AreMarked sources snippets marked)
    (hsource : sources[snippet.source]? = some source)
    (hstart : snippet.span.start ≤ source.byteLength) :
    AreMarked sources (snippets ++ [snippet])
      (add snippet.source source (snippet.mark source) marked) := by
  have hshown : snippet.isShown sources = true :=
    Snippet.isShown_iff.2 ⟨source, hsource, hstart⟩
  have hfilter : (snippets ++ [snippet]).filter (Snippet.isShown sources) =
      snippets.filter (Snippet.isShown sources) ++ [snippet] := by
    rw [List.filter_append, List.filter_singleton, hshown]
    rfl
  have hknown : snippet.source ∈ marked.map Marked.id ↔
      snippet.source ∈ (snippets.filter (Snippet.isShown sources)).map Snippet.source := by
    rw [hmarked.ids, List.mem_eraseDups]
  refine ⟨?_, ?_, ?_, ?_⟩
  · rw [map_id_add, hfilter, List.map_append, List.map_singleton, eraseDups_append_singleton,
      ← hmarked.ids]
    simp only [hknown]
  · rw [map_id_add]
    split
    · exact hmarked.nodup
    · rename_i hnew
      exact List.nodup_append.2 ⟨hmarked.nodup, List.pairwise_singleton _ _,
        fun other hother first hfirst heq =>
          hnew (by rwa [← List.mem_singleton.1 hfirst, ← heq])⟩
  · intro entry hentry
    rcases mem_add hmarked.nodup hentry with ⟨hmem, -⟩ | ⟨old, hold, -, rfl⟩ | ⟨-, rfl⟩
    · exact hmarked.source entry hmem
    · exact hmarked.source old hold
    · exact hsource
  · intro entry hentry
    rw [hfilter, List.filter_append, List.map_append]
    rcases mem_add hmarked.nodup hentry with ⟨hmem, hne⟩ | ⟨old, hold, heq, rfl⟩ | ⟨hnone, rfl⟩
    · rw [hmarked.marks entry hmem]
      simp [Ne.symm hne]
    · have hsame : old.source = source := by
        have := hmarked.source old hold
        rw [heq, hsource] at this
        exact (Option.some.inj this).symm
      simp [hmarked.marks old hold, heq, hsame]
    · have hempty : (snippets.filter (Snippet.isShown sources)).filter
          (fun other => other.source = snippet.source) = [] := by
        refine List.filter_eq_nil_iff.2 fun other hother heq => hnone (hknown.2 ?_)
        exact List.mem_map.2 ⟨other, hother, of_decide_eq_true heq⟩
      simp [hempty]

theorem ofSnippets_append_shown (hsource : sources[snippet.source]? = some source)
    (hstart : snippet.span.start ≤ source.byteLength) :
    ofSnippets sources (snippets ++ [snippet]) =
      add snippet.source source (snippet.mark source) (ofSnippets sources snippets) := by
  rw [ofSnippets, List.foldl_append, List.foldl_cons, List.foldl_nil, hsource]
  dsimp only
  rw [Snippet.mark?_eq, if_pos hstart]
  rfl

theorem ofSnippets_append_not_shown (hshown : snippet.isShown sources = false) :
    ofSnippets sources (snippets ++ [snippet]) = ofSnippets sources snippets := by
  rw [ofSnippets, List.foldl_append, List.foldl_cons, List.foldl_nil]
  cases hsource : sources[snippet.source]? with
  | none => rfl
  | some source =>
      have hstart : ¬ snippet.span.start ≤ source.byteLength := by
        simpa [Snippet.isShown, hsource] using hshown
      dsimp only
      rw [Snippet.mark?_eq, if_neg hstart]
      rfl

/-- The snippets of a report are sorted by source, and those that are not shown are left out. -/
theorem areMarked_ofSnippets (sources : List Source) (snippets : List Snippet) :
    AreMarked sources snippets (ofSnippets sources snippets) := by
  induction snippets using List.reverseRecOn with
  | nil => exact ⟨rfl, List.nodup_nil, by simp [ofSnippets], by simp [ofSnippets]⟩
  | append_singleton snippets snippet ih =>
      cases hshown : snippet.isShown sources with
      | false =>
          have hfilter : (snippets ++ [snippet]).filter (Snippet.isShown sources) =
              snippets.filter (Snippet.isShown sources) := by
            simp [List.filter_append, hshown]
          rw [ofSnippets_append_not_shown hshown]
          exact ⟨by rw [hfilter]; exact ih.ids, ih.nodup, ih.source,
            by rw [hfilter]; exact ih.marks⟩
      | true =>
          obtain ⟨source, hsource, hstart⟩ := Snippet.isShown_iff.1 hshown
          rw [ofSnippets_append_shown hsource hstart]
          exact ih.append_shown hsource hstart

end Marked

end TinyC
