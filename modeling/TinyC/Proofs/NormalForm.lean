import TinyC.Unicode.NormalForm

/-!
# Variants of ASCII characters

Many characters are variants of letters of ASCII.  A text in which all others are
such variants has a text of ASCII characters as its normal form: ASCII characters
are not taken apart, no marks are among them, and none of them joins the
character before it.
-/

namespace TinyC.Unicode.NormalForm

variable {codePoint : Nat}

/-! ## The tables -/

/-- What is found under a character is the last entry that the table has for it. -/
theorem parts?_eq (codePoint : Nat) :
    Decomposition.parts? codePoint =
      Decomposition.all.reverse.findSome? fun entry =>
        if entry.1 == codePoint then some entry.2 else none := by
  rw [Decomposition.parts?, Decomposition.byCharacter, Std.HashMap.ofList_eq_insertMany_empty,
    Std.HashMap.getElem?_insertMany_list, Std.HashMap.getElem?_empty, Option.or_none,
    List.findSomeRev?_eq_findSome?_reverse]

theorem parts?_of_lt (hlow : codePoint < 0x80) : Decomposition.parts? codePoint = none := by
  have hall : (Decomposition.all.all fun entry => 0x80 ≤ entry.1) = true := by decide +kernel
  rw [parts?_eq, List.findSome?_eq_none_iff]
  intro entry hentry
  have hhigh : 0x80 ≤ entry.1 := by
    simpa using List.all_eq_true.1 hall entry (List.mem_reverse.1 hentry)
  rw [if_neg]
  simp only [beq_iff_eq]
  omega

theorem composed?_of_lt {first second : Nat} (hlow : second < 0x80) :
    Decomposition.composed? first second = none := by
  have hall : (Decomposition.compositions.all fun entry => 0x80 ≤ entry.2.2) = true := by
    decide +kernel
  refine Std.HashMap.getElem?_ofList_of_contains_eq_false ?_
  rw [List.map_map, ← Bool.not_eq_true, List.contains_iff_mem, List.mem_map]
  rintro ⟨entry, hentry, hparts⟩
  have hhigh : 0x80 ≤ entry.2.2 := by simpa using List.all_eq_true.1 hall entry hentry
  have hsecond : entry.2.2 = second := congrArg Prod.snd hparts
  omega

theorem combiningClass_of_lt (hlow : codePoint < 0x80) : combiningClass codePoint = 0 := by
  have hall : (combiningClasses.all fun entry => 0x80 ≤ entry.1) = true := by decide +kernel
  rw [combiningClass]
  split
  · rename_i low high combining hfind
    have hhigh : 0x80 ≤ low := by
      simpa using List.all_eq_true.1 hall _ (List.mem_of_find?_eq_some hfind)
    rw [if_neg (by omega)]
  · rfl

/-! ## Texts of ASCII characters -/

/-- A code point that has no parts is not taken apart. -/
theorem decompose_of_none {parts? : Nat → Option (List Nat)} (hlow : codePoint < syllableBase)
    (hparts : parts? codePoint = none) (remaining : Nat) :
    decompose parts? remaining codePoint = [codePoint] := by
  cases remaining with
  | zero => rfl
  | succ remaining => rw [decompose, if_neg (by omega), hparts]

/-- A variant of one character that has no parts is made of that character. -/
theorem partsOf_of_variant {c : Char} {part : Nat}
    (hsyllable : ¬ (syllableBase ≤ c.toNat ∧ c.toNat - syllableBase < syllableCount))
    (hparts : Decomposition.parts? c.toNat = some [part]) (hlow : part < syllableBase)
    (hnone : Decomposition.parts? part = none) : partsOf c = [part] := by
  rw [partsOf, depth, decompose, if_neg hsyllable, hparts]
  simp [decompose_of_none hlow hnone]

theorem partsOf_of_isAscii {c : Char} (hascii : isAscii c = true) : partsOf c = [c.toNat] := by
  have hval : c.val < 0x80 := by simpa [isAscii] using hascii
  have hlow : c.toNat < 0x80 := UInt32.lt_iff_toNat_lt.1 hval
  have hbase : 0x80 ≤ syllableBase := by decide +kernel
  exact decompose_of_none (Nat.lt_of_lt_of_le hlow hbase) (parts?_of_lt hlow) depth

/-- No ASCII character joins the one before it. -/
theorem compose?_of_lt {first second : Nat} (hlow : second < 0x80) :
    compose? first second = none := by
  have hvowel : 0x80 ≤ vowelBase := by decide
  have htail : 0x80 ≤ tailBase := by decide
  have hsyllable : syllable? first second = none := by
    rw [syllable?, if_neg (by omega), if_neg (by omega)]
  rw [compose?, hsyllable]
  exact composed?_of_lt hlow

theorem place_of_lt (hlow : codePoint < 0x80) (reversed : List Mark) :
    place (.of codePoint) reversed = .of codePoint :: reversed := by
  have hzero : (Mark.of codePoint).combining = 0 := combiningClass_of_lt hlow
  cases reversed with
  | nil => rfl
  | cons other reversed => simp [place, hzero]

theorem arrange_of_lt {codePoints : List Nat} (hlow : ∀ codePoint ∈ codePoints, codePoint < 0x80) :
    arrange codePoints = codePoints.map Mark.of := by
  have hfold : ∀ reversed, codePoints.foldl (fun reversed codePoint =>
      place (.of codePoint) reversed) reversed = (codePoints.map Mark.of).reverse ++ reversed := by
    induction codePoints with
    | nil => exact fun _ => rfl
    | cons codePoint codePoints ih =>
        obtain ⟨hfirst, hrest⟩ := List.forall_mem_cons.1 hlow
        intro reversed
        rw [List.foldl_cons, place_of_lt hfirst, ih hrest, List.map_cons, List.reverse_cons,
          List.append_assoc]
        rfl
  rw [arrange, hfold, List.append_nil, List.reverse_reverse]

theorem Progress.all_add_of_lt (hlow : codePoint < 0x80) (progress : Progress) :
    (progress.add (.of codePoint)).all = codePoint :: progress.all := by
  have hzero : (Mark.of codePoint).combining = 0 := combiningClass_of_lt hlow
  have hjoins : ∀ base, compose? base (Mark.of codePoint).codePoint = none :=
    fun base => compose?_of_lt hlow
  obtain ⟨finished, base, waiting⟩ := progress
  cases base with
  | none =>
      rw [add]
      simp only [hzero]
      rfl
  | some base =>
      rw [add]
      simp only [hjoins, ite_self, hzero]
      rfl

theorem compose_of_lt {codePoints : List Nat} (hlow : ∀ codePoint ∈ codePoints, codePoint < 0x80) :
    compose (codePoints.map Mark.of) = codePoints := by
  have hfold : ∀ progress, ((codePoints.map Mark.of).foldl Progress.add progress).all =
      codePoints.reverse ++ progress.all := by
    induction codePoints with
    | nil => exact fun _ => rfl
    | cons codePoint codePoints ih =>
        obtain ⟨hfirst, hrest⟩ := List.forall_mem_cons.1 hlow
        intro progress
        rw [List.map_cons, List.foldl_cons, ih hrest, Progress.all_add_of_lt hfirst,
          List.reverse_cons, List.append_assoc]
        rfl
  rw [compose, hfold, List.reverse_append, List.reverse_reverse]
  rfl

/-- A text whose characters are made of ASCII characters has these as its normal form. -/
theorem ofText_of_partsOf {text : String}
    (hlow : ∀ part ∈ text.toList.flatMap partsOf, part < 0x80) :
    ofText text = String.ofList ((text.toList.flatMap partsOf).map Char.ofNat) := by
  rw [ofText]
  split
  · rename_i hascii
    have hself : ∀ c ∈ text.toList, partsOf c = [c.toNat] := fun c hc =>
      partsOf_of_isAscii (List.all_eq_true.1 hascii c hc)
    rw [List.flatMap_def, List.map_congr_left hself, ← List.flatMap_def, ← List.map_eq_flatMap,
      List.map_map]
    simp [Function.comp_def]
  · rw [arrange_of_lt hlow, compose_of_lt hlow]

end TinyC.Unicode.NormalForm
