/-!
# Numerals

Numbers written with digits of a base up to sixteen, letters in lower case, and
no leading zeros.
-/

namespace TinyC.Numeral

/-- The character of one digit. -/
def digit (value : Nat) : Char :=
  if value < 10 then Char.ofNat (48 + value) else Char.ofNat (87 + value)

/-- The digits of a number, the highest first.  Zero has one digit. -/
def digits (base value : Nat) : List Char :=
  if value < base ∨ base < 2 then [digit value]
  else digits base (value / base) ++ [digit (value % base)]
termination_by value
decreasing_by exact Nat.div_lt_self (by omega) (by omega)

/-- A number has at least one digit. -/
theorem digits_ne_nil (base value : Nat) : digits base value ≠ [] := by
  unfold digits
  split <;> simp

/-- The decimal text of a natural number. -/
def ofNat (value : Nat) : String := String.ofList (digits 10 value)

/-- The decimal text of an integer, a minus sign before the negative ones. -/
def ofInt : Int → String
  | .ofNat value => ofNat value
  | .negSucc value => "-" ++ ofNat (value + 1)

/-- The hexadecimal text of a natural number. -/
def hex (value : Nat) : String := String.ofList (digits 16 value)

/-- The power of ten that a number reaches: one less than its number of decimal digits. -/
def magnitude (value : Nat) : Nat :=
  if value < 10 then 0 else 1 + magnitude (value / 10)
termination_by value

/-- The value of a row of decimal digits. -/
def valueOf (row : List Char) : Nat :=
  row.foldl (fun value c => 10 * value + (c.toNat - 48)) 0

theorem valueOf_append_digit {value : Nat} (hlow : value < 10) (row : List Char) :
    valueOf (row ++ [digit value]) = 10 * valueOf row + value := by
  have hdigit : ∀ value < 10, (digit value).toNat = 48 + value := by decide
  simp only [valueOf, List.foldl_append, List.foldl_cons, List.foldl_nil, hdigit value hlow]
  omega

/-- The decimal digits of a number stand for that number. -/
theorem valueOf_digits (value : Nat) : valueOf (digits 10 value) = value := by
  induction value using Nat.strongRecOn with
  | ind value ih =>
      unfold digits
      split
      · have hlow : value < 10 := by omega
        have happend := valueOf_append_digit hlow []
        simpa [valueOf] using happend
      · rw [valueOf_append_digit (by omega), ih (value / 10) (by omega)]
        omega

/-- The value of a character as a digit: a decimal digit, or a letter in either case. -/
def digitValue? (c : Char) : Option Nat :=
  if c.isDigit then some (c.toNat - 48)
  else if c.isAlpha then some (c.toLower.toNat - 87)
  else none

/-- The value of a row of digits of a base. -/
def valueIn (base : Nat) (row : List Char) : Nat :=
  row.foldl (fun value c => base * value + (digitValue? c).getD 0) 0

/-- The number that a row of digits without a sign stands for. -/
def toNat? (row : List Char) : Option Nat :=
  if row.isEmpty || !row.all Char.isDigit then none else some (valueOf row)

/-- The number that a decimal text stands for: digits after at most one sign. -/
def toInt? : List Char → Option Int
  | '+' :: row => (toNat? row).map fun value => (value : Int)
  | '-' :: row => (toNat? row).map fun value => -(value : Int)
  | row => (toNat? row).map fun value => (value : Int)

/-- The number that a decimal text stands for, if it fits in 64 bits. -/
def toInt64? (text : List Char) : Option Int64 :=
  (toInt? text).bind fun value =>
    if Int64.minValue.toInt ≤ value ∧ value ≤ Int64.maxValue.toInt then some (Int64.ofInt value)
    else none

end TinyC.Numeral
