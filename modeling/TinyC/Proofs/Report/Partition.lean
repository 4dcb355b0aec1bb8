import TinyC.Proofs.Report.Windows

/-!
# Groups as a partition

Joining takes the items apart: they stand in the groups one after the other, sorted
by where their windows start, and each group covers a span that is apart from the
others.  A group starts where a window starts that no other window reaches from
before, and stops where a window stops that no other window goes beyond.  This is
said of the windows alone, so in whatever order the items come, the spans are the
same.
-/

namespace TinyC.Group

variable {α : Type} {window : α → Span} {items order : List α} {groups : List (Group α)}
  {group other : Group α} {item : α} {position : Nat}

/-! ## Partitions -/

/-- The items by ascending keys; those with equal keys are in the order they had. -/
structure IsStablySorted (key : α → Nat) (items sorted : List α) : Prop where
  perm : sorted.Perm items
  ascending : sorted.Pairwise fun first second => key first ≤ key second
  filter_eq : ∀ value, (sorted.filter fun item => key item = value) =
    items.filter fun item => key item = value

/-- The groups take the items apart, in the order of their windows, into stretches. -/
structure IsPartition (window : α → Span) (items : List α) (groups : List (Group α)) : Prop where
  items_ne_nil : ∀ group ∈ groups, group.items ≠ []
  sorted : IsStablySorted (fun item => (window item).start) items (groups.flatMap Group.items)
  areStretches : AreStretches window groups

theorem isStablySorted_inOrder (window : α → Span) (items : List α) :
    IsStablySorted (fun item => (window item).start) items (inOrder window items) where
  perm := inOrder_perm window items
  ascending := pairwise_inOrder window items
  filter_eq := fun _ => filter_inOrder fun _ _ _ _ hfirst hsecond =>
    (of_decide_eq_true hfirst).trans (of_decide_eq_true hsecond).symm

theorem isPartition_ofItems (hle : ∀ item ∈ items, (window item).start ≤ (window item).stop) :
    IsPartition window items (ofItems window items) where
  items_ne_nil := fun group hgroup =>
    ((areStretches_ofItems hle).isStretch group hgroup).items_ne_nil
  sorted := by
    rw [items_ofItems]
    exact isStablySorted_inOrder window items
  areStretches := areStretches_ofItems hle

theorem IsPartition.mem_iff (hgroups : IsPartition window items groups) :
    item ∈ items ↔ ∃ group ∈ groups, item ∈ group.items := by
  rw [← hgroups.sorted.perm.mem_iff, List.mem_flatMap]

/-! ## Groups that are apart -/

/-- Groups whose spans overlap or touch are the same. -/
theorem AreStretches.eq_of_touch (hstretches : AreStretches window groups)
    (hgroup : group ∈ groups) (hother : other ∈ groups)
    (hstart : other.span.start ≤ group.span.stop) (hstop : group.span.start ≤ other.span.stop) :
    group = other := by
  have happart := List.Pairwise.forall_of_forall_of_flip (l := groups)
    (R := fun first second => second.span.start ≤ first.span.stop →
      first.span.start ≤ second.span.stop → first = second)
    (fun _ _ _ _ => rfl)
    (hstretches.gaps.imp fun hgap hstart _ => absurd hgap (Nat.not_lt.2 hstart))
    (hstretches.gaps.imp fun hgap _ hstop => absurd hgap (Nat.not_lt.2 hstop))
  exact happart hgroup hother hstart hstop

/-- An item whose window overlaps or touches the span of a group is in the group. -/
theorem IsPartition.mem_items_of_touch (hgroups : IsPartition window items groups)
    (hgroup : group ∈ groups) (hitem : item ∈ items)
    (hstart : (window item).start ≤ group.span.stop)
    (hstop : group.span.start ≤ (window item).stop) : item ∈ group.items := by
  obtain ⟨other, hother, hitem⟩ := hgroups.mem_iff.1 hitem
  have hstretch := hgroups.areStretches.isStretch other hother
  have heq : group = other := hgroups.areStretches.eq_of_touch hgroup hother
    ((hstretch.start_le item hitem).trans hstart) (hstop.trans (hstretch.le_stop item hitem))
  rwa [heq]

/-- At every position of a group there is the window of an item. -/
theorem IsPartition.exists_across (hgroups : IsPartition window items groups)
    (hgroup : group ∈ groups) (position : Nat) (hstart : group.span.start ≤ position)
    (hstop : position < group.span.stop) :
    ∃ item ∈ items, (window item).start ≤ position ∧ position < (window item).stop := by
  obtain ⟨item, hitem, hposition⟩ :=
    (hgroups.areStretches.isStretch group hgroup).covered position
      (Span.contains_iff.2 ⟨hstart, hstop⟩)
  exact ⟨item, hgroups.mem_iff.2 ⟨group, hgroup, hitem⟩, Span.contains_iff.1 hposition⟩

/-! ## Starts and stops -/

/-- A window starts at the position, and none that starts before reaches it. -/
def StartsAt (window : α → Span) (items : List α) (position : Nat) : Prop :=
  (∃ item ∈ items, (window item).start = position) ∧
    ∀ item ∈ items, (window item).start < position → (window item).stop < position

/-- A window stops at the position, and none that has started goes beyond it. -/
def StopsAt (window : α → Span) (items : List α) (position : Nat) : Prop :=
  (∃ item ∈ items, (window item).stop = position) ∧
    ∀ item ∈ items, (window item).start ≤ position → (window item).stop ≤ position

theorem startsAt_of_perm (horder : order.Perm items) :
    StartsAt window order position ↔ StartsAt window items position := by
  simp only [StartsAt, horder.mem_iff]

theorem stopsAt_of_perm (horder : order.Perm items) :
    StopsAt window order position ↔ StopsAt window items position := by
  simp only [StopsAt, horder.mem_iff]

section

variable (hle : ∀ item ∈ items, (window item).start ≤ (window item).stop)
  (hgroups : IsPartition window items groups)
include hle hgroups

theorem IsPartition.start_le_stop (hgroup : group ∈ groups) :
    group.span.start ≤ group.span.stop := by
  have hstretch := hgroups.areStretches.isStretch group hgroup
  obtain ⟨item, hitem, hstop⟩ := hstretch.stop_eq
  have hwindow := hle item (hgroups.mem_iff.2 ⟨group, hgroup, hitem⟩)
  exact (hstretch.start_le item hitem).trans (hstop ▸ hwindow)

theorem IsPartition.mem_starts_iff :
    position ∈ groups.map (fun group => group.span.start) ↔ StartsAt window items position := by
  rw [List.mem_map]
  constructor
  · rintro ⟨group, hgroup, rfl⟩
    have hstretch := hgroups.areStretches.isStretch group hgroup
    obtain ⟨first, hfirst, hstart⟩ := hstretch.start_eq
    have hmem := hgroups.mem_iff.2 ⟨group, hgroup, List.mem_of_mem_head? hfirst⟩
    refine ⟨⟨first, hmem, hstart⟩, fun item hitem hbefore => ?_⟩
    by_contra hreaches
    have hspan := hgroups.start_le_stop hle hgroup
    have hinside := hgroups.mem_items_of_touch hgroup hitem (by omega) (Nat.not_lt.1 hreaches)
    exact Nat.not_le.2 hbefore (hstretch.start_le item hinside)
  · rintro ⟨⟨item, hitem, rfl⟩, hbefore⟩
    obtain ⟨group, hgroup, hinside⟩ := hgroups.mem_iff.1 hitem
    have hstretch := hgroups.areStretches.isStretch group hgroup
    refine ⟨group, hgroup, ?_⟩
    by_contra hne
    -- Otherwise the window that has the position before reaches the start of the item.
    have hstart := hstretch.start_le item hinside
    have hstop := (hle item hitem).trans (hstretch.le_stop item hinside)
    obtain ⟨across, hacross, hstarted, hreaches⟩ :=
      hgroups.exists_across hgroup ((window item).start - 1) (by omega) (by omega)
    have hends := hbefore across hacross (by omega)
    omega

theorem IsPartition.mem_stops_iff :
    position ∈ groups.map (fun group => group.span.stop) ↔ StopsAt window items position := by
  rw [List.mem_map]
  constructor
  · rintro ⟨group, hgroup, rfl⟩
    have hstretch := hgroups.areStretches.isStretch group hgroup
    obtain ⟨last, hlast, hstop⟩ := hstretch.stop_eq
    refine ⟨⟨last, hgroups.mem_iff.2 ⟨group, hgroup, hlast⟩, hstop⟩, fun item hitem hstarted => ?_⟩
    by_contra hbeyond
    have hspan := hgroups.start_le_stop hle hgroup
    have hinside := hgroups.mem_items_of_touch hgroup hitem hstarted (by omega)
    exact hbeyond (hstretch.le_stop item hinside)
  · rintro ⟨⟨item, hitem, rfl⟩, hbeyond⟩
    obtain ⟨group, hgroup, hinside⟩ := hgroups.mem_iff.1 hitem
    have hstretch := hgroups.areStretches.isStretch group hgroup
    refine ⟨group, hgroup, ?_⟩
    by_contra hne
    -- Otherwise the window that has the position where the item stops goes beyond it.
    have hstop := hstretch.le_stop item hinside
    have hstart := (hstretch.start_le item hinside).trans (hle item hitem)
    obtain ⟨across, hacross, hstarted, hreaches⟩ :=
      hgroups.exists_across hgroup _ hstart (lt_of_le_of_ne hstop (Ne.symm hne))
    exact Nat.not_le.2 hreaches (hbeyond across hacross hstarted)

theorem IsPartition.pairwise_starts :
    (groups.map fun group => group.span.start).Pairwise (· < ·) := by
  refine List.pairwise_map.2 (hgroups.areStretches.gaps.imp_of_mem fun hfirst _ hgap => ?_)
  exact (hgroups.start_le_stop hle hfirst).trans_lt hgap

theorem IsPartition.pairwise_stops :
    (groups.map fun group => group.span.stop).Pairwise (· < ·) := by
  refine List.pairwise_map.2 (hgroups.areStretches.gaps.imp_of_mem fun _ hsecond hgap => ?_)
  exact hgap.trans_le (hgroups.start_le_stop hle hsecond)

/-- The spans of a partition are determined by the windows. -/
theorem IsPartition.spans_eq {others : List (Group α)} (horder : order.Perm items)
    (hothers : IsPartition window order others) :
    others.map Group.span = groups.map Group.span := by
  have hleOrder : ∀ item ∈ order, (window item).start ≤ (window item).stop :=
    fun item hitem => hle item (horder.mem_iff.1 hitem)
  have hstarts : (others.map fun group => group.span.start) =
      groups.map fun group => group.span.start :=
    (hothers.pairwise_starts hleOrder).eq_of_mem_iff (hgroups.pairwise_starts hle) fun _ => by
      rw [hothers.mem_starts_iff hleOrder, hgroups.mem_starts_iff hle, startsAt_of_perm horder]
  have hstops : (others.map fun group => group.span.stop) =
      groups.map fun group => group.span.stop :=
    (hothers.pairwise_stops hleOrder).eq_of_mem_iff (hgroups.pairwise_stops hle) fun _ => by
      rw [hothers.mem_stops_iff hleOrder, hgroups.mem_stops_iff hle, stopsAt_of_perm horder]
  have hspans : ∀ groups : List (Group α), groups.map Group.span =
      List.zipWith Span.mk (groups.map fun group => group.span.start)
        (groups.map fun group => group.span.stop) := by
    intro groups
    rw [List.zipWith_map, List.zipWith_self]
  rw [hspans others, hspans groups, hstarts, hstops]

end

/-- Joining takes the items apart: no group is without items, and one after the other the items of
the groups are all the items, stably sorted by where their windows start.  Each span reaches from
the smallest start to the largest stop of its items, which cover it, and there is a gap between any
two spans.  In whatever order the items come, the spans are the same. -/
theorem ofItems_partition (window : α → Span) (items : List α)
    (hle : ∀ item ∈ items, (window item).start ≤ (window item).stop) :
    IsPartition window items (ofItems window items) ∧
      ∀ order : List α, order.Perm items →
        (ofItems window order).map Group.span = (ofItems window items).map Group.span := by
  refine ⟨isPartition_ofItems hle, fun order horder => ?_⟩
  have hleOrder : ∀ item ∈ order, (window item).start ≤ (window item).stop :=
    fun item hitem => hle item (horder.mem_iff.1 hitem)
  exact (isPartition_ofItems hle).spans_eq hle horder (isPartition_ofItems hleOrder)

/-- Windows that start together, one inside of another, and one apart. -/
def overlapping : List Span := [⟨0, 1⟩, ⟨11, 12⟩, ⟨0, 10⟩, ⟨5, 7⟩]

/-- Three of the windows form one stretch, whichever of them comes first. -/
theorem ofItems_partition_overlapping :
    (∀ span ∈ overlapping, span.start ≤ span.stop) ∧
      IsPartition id overlapping (ofItems id overlapping) ∧
      ofItems id overlapping =
        [⟨[⟨0, 1⟩, ⟨0, 10⟩, ⟨5, 7⟩], ⟨0, 10⟩⟩, ⟨[⟨11, 12⟩], ⟨11, 12⟩⟩] ∧
      (ofItems id overlapping.reverse).map Group.span = [⟨0, 10⟩, ⟨11, 12⟩] := by
  have hle : ∀ span ∈ overlapping, span.start ≤ span.stop := by decide
  have hgroups : ofItems id overlapping =
      [⟨[⟨0, 1⟩, ⟨0, 10⟩, ⟨5, 7⟩], ⟨0, 10⟩⟩, ⟨[⟨11, 12⟩], ⟨11, 12⟩⟩] := by
    simp [ofItems, inOrder, overlapping, List.mergeSort, join, Span.emptyAt]
  obtain ⟨hpartition, horders⟩ := ofItems_partition id overlapping hle
  refine ⟨hle, hpartition, hgroups, ?_⟩
  rw [horders _ (List.reverse_perm _), hgroups]
  rfl

end TinyC.Group
