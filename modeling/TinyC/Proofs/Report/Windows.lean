import Mathlib.Data.List.Sort
import TinyC.Report.Windows

/-!
# Stretches of windows

Joining puts items into groups so that the window of every item lies in the span
of its group, every position of a span lies in a window, and between two
consecutive spans there is a gap.

## Strategy

The items arrive in the order in which their windows start.  The group that is
still open covers its span (`IsStretch`), and a further item either starts in the
span or right after it, and then the larger span is covered too, or leaves a gap,
and then a new group starts with that item alone.
-/

namespace TinyC

namespace Span

/-- The positions of a span, in order. -/
def positions (span : Span) : List Nat := List.range' span.start span.length

theorem mem_positions {span : Span} {position : Nat} :
    position ∈ span.positions ↔ span.contains position = true := by
  rw [positions, List.mem_range'_1, length, contains_iff]
  omega

end Span

namespace Group

variable {α β : Type} {window : α → Span} {group opened : Group α} {item : α} {items : List α}

/-! ## The order of the items -/

theorem inOrder_perm (window : α → Span) (items : List α) : (inOrder window items).Perm items :=
  List.mergeSort_perm _ _

theorem mem_inOrder : item ∈ inOrder window items ↔ item ∈ items := List.mem_mergeSort

theorem pairwise_inOrder (window : α → Span) (items : List α) :
    (inOrder window items).Pairwise fun first second =>
      (window first).start ≤ (window second).start := by
  have hsorted := @List.pairwise_mergeSort _
    (fun first second => decide ((window first).start ≤ (window second).start))
    (by simp only [decide_eq_true_eq]; omega)
    (by simp only [Bool.or_eq_true, decide_eq_true_eq]; omega) items
  exact hsorted.imp of_decide_eq_true

/-- Items whose windows start together keep their order. -/
theorem filter_inOrder {keep : α → Bool}
    (htogether : ∀ first ∈ items, ∀ second ∈ items, keep first = true → keep second = true →
      (window first).start = (window second).start) :
    (inOrder window items).filter keep = items.filter keep := by
  have hordered : (items.filter keep).Pairwise fun first second =>
      decide ((window first).start ≤ (window second).start) = true := by
    refine List.pairwise_of_forall_mem_list fun first hfirst second hsecond => ?_
    obtain ⟨hfirst, hkeepFirst⟩ := List.mem_filter.1 hfirst
    obtain ⟨hsecond, hkeepSecond⟩ := List.mem_filter.1 hsecond
    exact decide_eq_true (htogether first hfirst second hsecond hkeepFirst hkeepSecond).le
  have hsublist : (items.filter keep).Sublist (inOrder window items) :=
    List.sublist_mergeSort (by simp only [decide_eq_true_eq]; omega)
      (by simp only [Bool.or_eq_true, decide_eq_true_eq]; omega) hordered List.filter_sublist
  have hkept : (items.filter keep).Sublist ((inOrder window items).filter keep) := by
    simpa using hsublist.filter keep
  exact (hkept.eq_of_length ((inOrder_perm window items).filter keep).length_eq.symm).symm

/-! ## Covered spans -/

/-- The windows of the items cover the span of the group and do not reach beyond it. -/
structure IsStretch (window : α → Span) (group : Group α) : Prop where
  start_eq : ∃ item, group.items.head? = some item ∧ (window item).start = group.span.start
  stop_eq : ∃ item ∈ group.items, (window item).stop = group.span.stop
  start_le : ∀ item ∈ group.items, group.span.start ≤ (window item).start
  le_stop : ∀ item ∈ group.items, (window item).stop ≤ group.span.stop
  covered : ∀ position, group.span.contains position = true →
    ∃ item ∈ group.items, (window item).contains position = true

theorem IsStretch.items_ne_nil (hgroup : IsStretch window group) : group.items ≠ [] := by
  obtain ⟨item, hitem, -⟩ := hgroup.start_eq
  intro hnil
  rw [hnil] at hitem
  cases hitem

/-- One item covers its window. -/
theorem isStretch_singleton (window : α → Span) (item : α) :
    IsStretch window ⟨[item], window item⟩ where
  start_eq := ⟨item, rfl, rfl⟩
  stop_eq := ⟨item, List.mem_singleton_self item, rfl⟩
  start_le := by simp
  le_stop := by simp
  covered := fun _ hposition => ⟨item, List.mem_singleton_self item, hposition⟩

/-- An item whose window starts in the span of a group, or where it ends, makes it longer. -/
theorem IsStretch.append_item (hgroup : IsStretch window group)
    (hstart : group.span.start ≤ (window item).start)
    (htouch : (window item).start ≤ group.span.stop) :
    IsStretch window
      ⟨group.items ++ [item], ⟨group.span.start, max group.span.stop (window item).stop⟩⟩ where
  start_eq := by
    obtain ⟨first, hfirst, heq⟩ := hgroup.start_eq
    exact ⟨first, by rw [List.head?_append, hfirst]; rfl, heq⟩
  stop_eq := by
    obtain ⟨last, hlast, heq⟩ := hgroup.stop_eq
    rcases Nat.le_total group.span.stop (window item).stop with hle | hle
    · exact ⟨item, by simp, (Nat.max_eq_right hle).symm⟩
    · exact ⟨last, List.mem_append_left _ hlast, heq.trans (Nat.max_eq_left hle).symm⟩
  start_le := by
    intro other hother
    rcases List.mem_append.1 hother with hother | hother
    · exact hgroup.start_le other hother
    · rw [List.mem_singleton.1 hother]
      exact hstart
  le_stop := by
    intro other hother
    rcases List.mem_append.1 hother with hother | hother
    · exact (hgroup.le_stop other hother).trans (Nat.le_max_left _ _)
    · rw [List.mem_singleton.1 hother]
      exact Nat.le_max_right _ _
  covered := by
    intro position hposition
    by_cases hold : group.span.contains position = true
    · obtain ⟨other, hother, hcontains⟩ := hgroup.covered position hold
      exact ⟨other, List.mem_append_left _ hother, hcontains⟩
    · -- What the span has gained lies in the window of the item.
      refine ⟨item, by simp, ?_⟩
      simp only [Span.contains_iff] at hposition hold ⊢
      omega

/-! ## Joining -/

/-- The groups are covered, and there is a gap before each but the first. -/
structure AreStretches (window : α → Span) (groups : List (Group α)) : Prop where
  isStretch : ∀ group ∈ groups, IsStretch window group
  gaps : groups.Pairwise fun first second => first.span.stop < second.span.start

/-- Joining goes on from a covered group with covered groups, which do not start earlier. -/
theorem areStretches_join (hopened : IsStretch window opened)
    (hle : ∀ item ∈ items, (window item).start ≤ (window item).stop)
    (hafter : ∀ item ∈ items, opened.span.start ≤ (window item).start)
    (hordered : items.Pairwise fun first second =>
      (window first).start ≤ (window second).start) :
    AreStretches window (join window opened items) ∧
      ∀ group ∈ join window opened items, opened.span.start ≤ group.span.start := by
  induction items generalizing opened with
  | nil =>
      rw [join, if_neg (by simpa using hopened.items_ne_nil)]
      exact ⟨⟨by simpa using hopened, List.pairwise_singleton _ _⟩, by simp⟩
  | cons item rest ih =>
      obtain ⟨hfirst, hrest⟩ := List.pairwise_cons.1 hordered
      have hleRest : ∀ other ∈ rest, (window other).start ≤ (window other).stop :=
        fun other hother => hle other (List.mem_cons_of_mem _ hother)
      have hafterItem := hafter item List.mem_cons_self
      rw [join]
      by_cases hgap : opened.span.stop < (window item).start
      · have hleItem := hle item List.mem_cons_self
        have hwindow : (⟨(window item).start, max opened.span.stop (window item).stop⟩ : Span) =
            window item := by
          rw [Nat.max_eq_right (by omega)]
        obtain ⟨hstretches, hstarts⟩ := ih (isStretch_singleton window item) hleRest hfirst hrest
        rw [if_pos hgap, if_neg (by simpa using hopened.items_ne_nil), hwindow]
        refine ⟨⟨?_, ?_⟩, ?_⟩
        · exact List.forall_mem_cons.2 ⟨hopened, hstretches.isStretch⟩
        · exact List.pairwise_cons.2
            ⟨fun group hgroup => hgap.trans_le (hstarts group hgroup), hstretches.gaps⟩
        · exact List.forall_mem_cons.2
            ⟨le_rfl, fun group hgroup => hafterItem.trans (hstarts group hgroup)⟩
      · rw [if_neg hgap]
        exact ih (hopened.append_item hafterItem (Nat.not_lt.1 hgap)) hleRest
          (fun other hother => hafterItem.trans (hfirst other hother)) hrest

/-- The first item opens a group of its own. -/
theorem join_empty (window : α → Span) (item : α) (rest : List α) :
    join window ⟨[], .emptyAt 0⟩ (item :: rest) = join window ⟨[item], window item⟩ rest := by
  have hstop : max 0 (window item).stop = (window item).stop := Nat.max_eq_right (Nat.zero_le _)
  rw [join]
  by_cases hstart : 0 < (window item).start
  · rw [if_pos (by exact hstart)]
    simp only [Span.emptyAt, hstop, List.isEmpty_nil, if_true]
  · have hzero : (0 : Nat) = (window item).start := by omega
    rw [if_neg (by exact hstart)]
    simp only [Span.emptyAt, hstop, List.nil_append]
    rw [hzero]

/-- One item is alone in its group. -/
theorem ofItems_singleton (window : α → Span) (item : α) :
    ofItems window [item] = [⟨[item], window item⟩] := by
  rw [ofItems, inOrder, List.mergeSort_singleton, join_empty]
  rfl

/-- Every item is in one group. -/
theorem items_ofItems (window : α → Span) (items : List α) :
    (ofItems window items).flatMap Group.items = inOrder window items := by
  rw [ofItems, items_join, List.nil_append]

/-- Items are put into groups that cover their spans, with gaps between them. -/
theorem areStretches_ofItems
    (hle : ∀ item ∈ items, (window item).start ≤ (window item).stop) :
    AreStretches window (ofItems window items) := by
  have hordered := pairwise_inOrder window items
  have hleOrdered : ∀ item ∈ inOrder window items, (window item).start ≤ (window item).stop :=
    fun item hitem => hle item (mem_inOrder.1 hitem)
  rw [ofItems]
  cases hitems : inOrder window items with
  | nil => exact ⟨by simp [join], by simp [join]⟩
  | cons item rest =>
      rw [hitems] at hordered hleOrdered
      obtain ⟨hfirst, hrest⟩ := List.pairwise_cons.1 hordered
      rw [join_empty]
      exact (areStretches_join (isStretch_singleton window item)
        (fun other hother => hleOrdered other (List.mem_cons_of_mem _ hother)) hfirst hrest).1

/-! ## Positions -/

/-- The positions in the spans are those in the windows. -/
theorem exists_contains_iff (hle : ∀ item ∈ items, (window item).start ≤ (window item).stop)
    (position : Nat) :
    (∃ group ∈ ofItems window items, group.span.contains position = true) ↔
      ∃ item ∈ items, (window item).contains position = true := by
  have hstretches := areStretches_ofItems hle
  have hmem : ∀ item, item ∈ items ↔ ∃ group ∈ ofItems window items, item ∈ group.items := by
    intro item
    rw [← mem_inOrder, ← items_ofItems, List.mem_flatMap]
  constructor
  · rintro ⟨group, hgroup, hposition⟩
    obtain ⟨item, hitem, hcontains⟩ :=
      (hstretches.isStretch group hgroup).covered position hposition
    exact ⟨item, (hmem item).2 ⟨group, hgroup, hitem⟩, hcontains⟩
  · rintro ⟨item, hitem, hcontains⟩
    obtain ⟨group, hgroup, hitem⟩ := (hmem item).1 hitem
    have hstart := (hstretches.isStretch group hgroup).start_le item hitem
    have hstop := (hstretches.isStretch group hgroup).le_stop item hitem
    refine ⟨group, hgroup, ?_⟩
    simp only [Span.contains_iff] at hcontains ⊢
    omega

/-- The positions of covered groups are in order, and none occurs twice. -/
theorem AreStretches.pairwise_positions {groups : List (Group α)}
    (hstretches : AreStretches window groups) :
    (groups.flatMap fun group => group.span.positions).Pairwise (· < ·) := by
  rw [List.pairwise_flatMap]
  refine ⟨fun group _ => List.pairwise_lt_range' 1, hstretches.gaps.imp ?_⟩
  intro first second hgap position hposition other hother
  rw [Span.mem_positions, Span.contains_iff] at hposition hother
  omega

/-- A group has all items of a kind whose windows have a position of its span, in their order. -/
theorem filter_items {keep : α → Bool} {position : Nat}
    (hle : ∀ item ∈ items, (window item).start ≤ (window item).stop)
    (htogether : ∀ first ∈ items, ∀ second ∈ items, keep first = true → keep second = true →
      (window first).start = (window second).start)
    (hkeep : ∀ item ∈ items, keep item = true → (window item).contains position = true)
    (hgroup : group ∈ ofItems window items) (hposition : group.span.contains position = true) :
    group.items.filter keep = items.filter keep := by
  have hstretches := areStretches_ofItems hle
  have hitems := items_ofItems window items
  obtain ⟨before, after, hgroups⟩ := List.append_of_mem hgroup
  have happart : ∀ other, (other ∈ before ∨ other ∈ after) → other.items.filter keep = [] := by
    intro other hother
    have hmem : other ∈ ofItems window items := by
      rw [hgroups]
      exact List.mem_append.2 (hother.imp_right (List.mem_cons_of_mem _))
    refine List.filter_eq_nil_iff.2 fun item hitem hkept => ?_
    -- Otherwise the position would lie in both spans, between which there is a gap.
    have hwindow := hkeep item
      (mem_inOrder.1 (hitems ▸ List.mem_flatMap.2 ⟨other, hmem, hitem⟩)) hkept
    have hstart := (hstretches.isStretch other hmem).start_le item hitem
    have hstop := (hstretches.isStretch other hmem).le_stop item hitem
    have hgaps := hstretches.gaps
    rw [hgroups] at hgaps
    obtain ⟨-, hgaps, hbefore⟩ := List.pairwise_append.1 hgaps
    simp only [Span.contains_iff] at hwindow hposition
    rcases hother with hother | hother
    · have hgap := hbefore other hother group List.mem_cons_self
      omega
    · have hgap := (List.pairwise_cons.1 hgaps).1 other hother
      omega
  calc group.items.filter keep
      = ((ofItems window items).flatMap Group.items).filter keep := by
        rw [hgroups, List.flatMap_append, List.flatMap_cons, List.filter_append,
          List.filter_append, List.filter_flatMap, List.filter_flatMap,
          List.flatMap_eq_nil_iff.2 fun other hother => happart other (.inl hother),
          List.flatMap_eq_nil_iff.2 fun other hother => happart other (.inr hother),
          List.nil_append, List.append_nil]
    _ = (inOrder window items).filter keep := by rw [hitems]
    _ = items.filter keep := filter_inOrder htogether

/-! ## Images -/

theorem join_map (window : β → Span) (f : α → β) (opened : Group α) (items : List α) :
    join window ⟨opened.items.map f, opened.span⟩ (items.map f) =
      (join (window ∘ f) opened items).map fun group => ⟨group.items.map f, group.span⟩ := by
  induction items generalizing opened with
  | nil => by_cases hempty : opened.items = [] <;> simp [join, hempty]
  | cons item rest ih =>
      have hopened := ih
        ⟨[item], ⟨(window (f item)).start, max opened.span.stop (window (f item)).stop⟩⟩
      have hlonger := ih ⟨opened.items ++ [item],
        ⟨opened.span.start, max opened.span.stop (window (f item)).stop⟩⟩
      rw [List.map_append] at hlonger
      simp only [List.map_cons, List.map_nil] at hopened hlonger
      rw [List.map_cons, join, join]
      by_cases hgap : opened.span.stop < (window (f item)).start
      · by_cases hempty : opened.items = [] <;> simp [hgap, hempty, hopened]
      · simp [hgap, hlonger]

/-- The groups of what stands for items are what stands for their groups. -/
theorem ofItems_map (window : β → Span) (f : α → β) (items : List α) :
    ofItems window (items.map f) =
      (ofItems (window ∘ f) items).map fun group => ⟨group.items.map f, group.span⟩ := by
  have horder : inOrder window (items.map f) = (inOrder (window ∘ f) items).map f := by
    rw [inOrder, inOrder, List.map_mergeSort]
    intro first _ second _
    rfl
  rw [ofItems, ofItems, horder]
  exact join_map window f ⟨[], .emptyAt 0⟩ _

end Group

end TinyC
