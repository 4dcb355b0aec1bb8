/-!
# Sets of characters as ranges

A property of characters is stored as the list of its code point ranges, both
ends included.  The ranges of a list are disjoint and in increasing order, so a
search may stop at the first range that begins beyond the code point.
-/

namespace TinyC.Unicode

/-- Whether a code point lies in one of the ranges. -/
def inRanges (codePoint : Nat) : List (Nat × Nat) → Bool
  | [] => false
  | (low, high) :: rest =>
      if codePoint < low then false
      else if codePoint ≤ high then true
      else inRanges codePoint rest

/-- A search that succeeds has met a range around the code point. -/
theorem exists_range_of_inRanges {codePoint : Nat} {ranges : List (Nat × Nat)}
    (hin : inRanges codePoint ranges = true) :
    ∃ range ∈ ranges, range.1 ≤ codePoint ∧ codePoint ≤ range.2 := by
  induction ranges with
  | nil => simp [inRanges] at hin
  | cons range rest ih =>
      obtain ⟨low, high⟩ := range
      unfold inRanges at hin
      split at hin
      · simp at hin
      · split at hin
        · exact ⟨(low, high), by simp, by omega, by assumption⟩
        · obtain ⟨found, hmem, hbounds⟩ := ih hin
          exact ⟨found, List.mem_cons_of_mem _ hmem, hbounds⟩

end TinyC.Unicode
