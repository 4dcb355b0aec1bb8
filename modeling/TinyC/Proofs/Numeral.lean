import TinyC.Text.Numeral

/-!
# Reading numerals back

The decimal text of a number stands for that number.
-/

namespace TinyC.Numeral

theorem isDigit_digit {value : Nat} (hlow : value < 10) : (digit value).isDigit = true := by
  have hdigit : ∀ value < 10, (digit value).isDigit = true := by decide
  exact hdigit value hlow

theorem isDigit_of_mem_digits (value : Nat) :
    ∀ c ∈ digits 10 value, c.isDigit = true := by
  induction value using Nat.strongRecOn with
  | ind value ih =>
      unfold digits
      split
      · simpa using isDigit_digit (by omega)
      · refine List.forall_mem_append.2 ⟨ih (value / 10) (by omega), ?_⟩
        simpa using isDigit_digit (Nat.mod_lt value (by decide))

theorem toNat?_digits (value : Nat) : toNat? (digits 10 value) = some value := by
  have hempty : (digits 10 value).isEmpty = false := by
    simpa using digits_ne_nil 10 value
  have hall : (digits 10 value).all Char.isDigit = true :=
    List.all_eq_true.2 (isDigit_of_mem_digits value)
  rw [toNat?, hempty, hall, valueOf_digits]
  rfl

theorem toInt?_digits (value : Nat) :
    toInt? (digits 10 value) = some (value : Int) := by
  have hnat := toNat?_digits value
  have hdigits := isDigit_of_mem_digits value
  cases hrow : digits 10 value with
  | nil => exact absurd hrow (digits_ne_nil 10 value)
  | cons c row =>
      rw [hrow] at hnat hdigits
      have hc : c.isDigit = true := hdigits c List.mem_cons_self
      unfold toInt?
      split
      · simp_all
      · simp_all
      · rw [hnat]
        rfl

/-- The text of a number that is not negative is its digits. -/
theorem exists_ofInt_eq {value : Int} (hvalue : 0 ≤ value) :
    ∃ size : Nat, value = size ∧ (ofInt value).toList = digits 10 size := by
  obtain ⟨size, rfl⟩ := Int.eq_ofNat_of_zero_le hvalue
  exact ⟨size, rfl, by simp [ofInt, ofNat]⟩

theorem toInt64?_ofInt {value : Int64} (hvalue : 0 ≤ value.toInt) :
    toInt64? (ofInt value.toInt).toList = some value := by
  obtain ⟨size, hsize, htext⟩ := exists_ofInt_eq hvalue
  have hbounds : Int64.minValue.toInt ≤ value.toInt ∧ value.toInt ≤ Int64.maxValue.toInt :=
    ⟨value.minValue_le_toInt, value.toInt_le⟩
  rw [toInt64?, htext, toInt?_digits, ← hsize, Option.bind_some, if_pos hbounds,
    Int64.ofInt_toInt]

/-! ## Rows of digits -/

/-- A row of digits stands for its value, if that fits. -/
theorem toInt64?_of_isDigit {row : List Char} (hne : row ≠ [])
    (hdigits : ∀ c ∈ row, c.isDigit = true) :
    toInt64? row =
      if valueOf row ≤ 9223372036854775807 then some (Int64.ofNat (valueOf row)) else none := by
  have hnat : toNat? row = some (valueOf row) := by
    rw [toNat?, List.isEmpty_eq_false_iff.2 hne, List.all_eq_true.2 hdigits]
    rfl
  have hint : toInt? row = some (valueOf row : Int) := by
    unfold toInt?
    split
    · exact absurd (hdigits '+' List.mem_cons_self) (by decide)
    · exact absurd (hdigits '-' List.mem_cons_self) (by decide)
    · rw [hnat]
      rfl
  have hbounds : (Int64.minValue.toInt ≤ (valueOf row : Int) ∧
      (valueOf row : Int) ≤ Int64.maxValue.toInt) ↔ valueOf row ≤ 9223372036854775807 := by
    have hmin : Int64.minValue.toInt = -9223372036854775808 := by decide
    have hmax : Int64.maxValue.toInt = 9223372036854775807 := by decide
    rw [hmin, hmax]
    omega
  rw [toInt64?, hint, Option.bind_some]
  simp only [hbounds, Int64.ofInt_eq_ofNat]

/-- The digits of a number are those of its decimal text. -/
theorem digits_eq_toDigits (value : Nat) : digits 10 value = Nat.toDigits 10 value := by
  have hdigit : ∀ value < 10, digit value = value.digitChar := by decide
  induction value using Nat.strongRecOn with
  | ind value ih =>
      unfold digits
      split
      · have hlow : value < 10 := by omega
        rw [Nat.toDigits_of_lt_base hlow, hdigit value hlow]
      · rw [Nat.toDigits_of_base_le (by decide) (by omega), ih (value / 10) (by omega),
          hdigit _ (Nat.mod_lt value (by decide))]

theorem ofNat_eq_toString (value : Nat) : ofNat value = toString value := by
  rw [ofNat, digits_eq_toDigits, Nat.toString_eq_ofList_toDigits]

/-! ## Numbers of digits -/

theorem length_digits (value : Nat) : (digits 10 value).length = 1 + magnitude value := by
  induction value using Nat.strongRecOn with
  | ind value ih =>
      unfold digits magnitude
      by_cases hlow : value < 10
      · rw [if_pos (.inl hlow), if_pos hlow, List.length_singleton]
      · have hnot : ¬(value < 10 ∨ 10 < 2) := by omega
        rw [if_neg hnot, if_neg hlow, List.length_append, List.length_singleton,
          ih (value / 10) (by omega)]
        omega

theorem length_ofNat (value : Nat) : (ofNat value).length = 1 + magnitude value := by
  rw [ofNat, String.length_ofList, length_digits]

theorem magnitude_mono {first second : Nat} (hle : first ≤ second) :
    magnitude first ≤ magnitude second := by
  induction second using Nat.strongRecOn generalizing first with
  | ind second ih =>
      unfold magnitude
      by_cases hfirst : first < 10
      · rw [if_pos hfirst]
        exact Nat.zero_le _
      · rw [if_neg hfirst, if_neg (by omega)]
        exact Nat.add_le_add_left (ih (second / 10) (by omega) (Nat.div_le_div_right hle)) 1

/-- A larger number has at least as many digits. -/
theorem length_ofNat_mono {first second : Nat} (hle : first ≤ second) :
    (ofNat first).length ≤ (ofNat second).length := by
  rw [length_ofNat, length_ofNat]
  exact Nat.add_le_add_left (magnitude_mono hle) 1

/-! ## Integers with a sign -/

theorem toList_ofInt_negSucc (value : Nat) :
    (ofInt (.negSucc value)).toList = '-' :: digits 10 (value + 1) := by
  simp [ofInt, ofNat]

theorem toInt?_ofInt (value : Int) : toInt? (ofInt value).toList = some value := by
  cases value with
  | ofNat value =>
      rw [ofInt, ofNat, String.toList_ofList]
      exact toInt?_digits value
  | negSucc value =>
      rw [toList_ofInt_negSucc, toInt?, toNat?_digits]
      rfl

theorem ofInt_injective : Function.Injective ofInt := fun first second heq =>
  Option.some.inj (by rw [← toInt?_ofInt, ← toInt?_ofInt, heq])

/-- The decimal text of an integer has digits and the minus sign only. -/
theorem eq_or_isDigit_of_mem_ofInt {value : Int} {c : Char} (hc : c ∈ (ofInt value).toList) :
    c = '-' ∨ c.isDigit = true := by
  cases value with
  | ofNat value =>
      rw [ofInt, ofNat, String.toList_ofList] at hc
      exact .inr (isDigit_of_mem_digits value c hc)
  | negSucc value =>
      rw [toList_ofInt_negSucc] at hc
      exact (List.mem_cons.1 hc).imp_right (isDigit_of_mem_digits (value + 1) c)

/-! ## Other bases -/

theorem digitValue?_digit {value : Nat} (hlow : value < 16) :
    digitValue? (digit value) = some value := by
  have hall : ∀ value < 16, digitValue? (digit value) = some value := by decide
  exact hall value hlow

/-- Digits are those of numbers below the base. -/
theorem exists_digit_of_mem {base value : Nat} (hbase : 1 < base) {c : Char}
    (hc : c ∈ digits base value) : ∃ low < base, c = digit low := by
  induction value using Nat.strongRecOn with
  | ind value ih =>
      unfold digits at hc
      split at hc
      · exact ⟨value, by omega, List.mem_singleton.1 hc⟩
      · rcases List.mem_append.1 hc with hc | hc
        · exact ih (value / base) (Nat.div_lt_self (by omega) hbase) hc
        · exact ⟨value % base, Nat.mod_lt _ (by omega), List.mem_singleton.1 hc⟩

/-- The digits of a number stand for that number. -/
theorem valueIn_digits {base : Nat} (hbase : 1 < base) (hdigits : base ≤ 16) (value : Nat) :
    valueIn base (digits base value) = value := by
  induction value using Nat.strongRecOn with
  | ind value ih =>
      unfold digits
      split
      · have hlow : value < 16 := by omega
        simp [valueIn, digitValue?_digit hlow]
      · have hlow : value % base < 16 := Nat.lt_of_lt_of_le (Nat.mod_lt value (by omega)) hdigits
        have hhigh := ih (value / base) (Nat.div_lt_self (by omega) hbase)
        rw [valueIn] at hhigh
        rw [valueIn, List.foldl_append, hhigh, List.foldl_cons, List.foldl_nil,
          digitValue?_digit hlow, Option.getD_some, Nat.div_add_mod]

end TinyC.Numeral
