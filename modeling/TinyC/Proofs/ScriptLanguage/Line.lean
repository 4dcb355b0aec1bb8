/-!
# Lines of a text

The script's language reads a text line by line.  A line ends at a line feed, at
a carriage return, and at both of them in a row; what stands after the last end
is a line too.
-/

namespace TinyC.ScriptLanguage

/-- Whether a character ends a line. -/
def endsLine (c : Char) : Bool := c = '\n' || c = '\r'

/-- The lines of a text. -/
def splitLines : List Char → List (List Char)
  | [] => [[]]
  | '\r' :: '\n' :: rest => [] :: splitLines rest
  | c :: rest =>
      let lines := splitLines rest
      if endsLine c then [] :: lines else (c :: lines.headD []) :: lines.tail

/-- The text has no end of a line in it. -/
def IsInline (text : List Char) : Prop := ∀ c ∈ text, endsLine c = false

theorem isInline_nil : IsInline [] := by
  intro c hc
  simp at hc

theorem isInline_cons {c : Char} {text : List Char} :
    IsInline (c :: text) ↔ endsLine c = false ∧ IsInline text := List.forall_mem_cons

theorem isInline_append {first second : List Char} :
    IsInline (first ++ second) ↔ IsInline first ∧ IsInline second := List.forall_mem_append

theorem IsInline.append {first second : List Char} (hfirst : IsInline first)
    (hsecond : IsInline second) : IsInline (first ++ second) :=
  isInline_append.2 ⟨hfirst, hsecond⟩

instance (text : List Char) : Decidable (IsInline text) :=
  List.decidableBAll (fun c => endsLine c = false) text

/-- A text without ends of lines is a line when a line feed follows. -/
theorem IsInline.splitLines_append {line : List Char} (hline : IsInline line) (rest : List Char) :
    splitLines (line ++ '\n' :: rest) = line :: splitLines rest := by
  induction line with
  | nil => simp [splitLines, endsLine]
  | cons c line ih =>
      obtain ⟨hc, hline⟩ := isInline_cons.1 hline
      have hreturn : c ≠ '\r' := by
        rintro rfl
        simp [endsLine] at hc
      rw [List.cons_append, splitLines, ih hline, hc]
      · rfl
      · rintro after rfl
        exact absurd rfl hreturn

/-- Lines that are written with a line feed after each are split again as they were. -/
theorem splitLines_flatMap {lines : List (List Char)} (hlines : ∀ line ∈ lines, IsInline line) :
    splitLines (lines.flatMap fun line => line ++ ['\n']) = lines ++ [[]] := by
  induction lines with
  | nil => rfl
  | cons line lines ih =>
      obtain ⟨hline, hlines⟩ := List.forall_mem_cons.1 hlines
      rw [List.flatMap_cons, List.append_assoc, List.singleton_append, hline.splitLines_append,
        ih hlines]
      rfl

end TinyC.ScriptLanguage
