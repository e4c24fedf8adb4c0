/-
This file reads and writes whole numbers in ASCII digits. A run of digits that is longer than the
limit is refused before it is read, leading zeros included.
-/

namespace OfficeMachine.Numeral

/-- The limit bounds the digits of a number that is read or written. -/
def digitLimit : Nat := 4300

/-- A text is a run of digits if it has a character and only the digits from 0 to 9. -/
def isDigits (text : List Char) : Bool := !text.isEmpty && text.all Char.isDigit

/-- The value of a run of digits is its decimal value. -/
def value (digits : List Char) : Nat := Nat.ofDigitChars 10 digits 0

/-- Such a run has more digits than the limit. -/
structure TooLong where
  digits : Nat
  deriving DecidableEq

def TooLong.message (failure : TooLong) : String :=
  s!"Exceeds the limit ({digitLimit} digits) for integer string conversion: " ++
    s!"value has {failure.digits} digits; " ++
    "use sys.set_int_max_str_digits() to increase the limit"

/-- A run of digits within the limit is read as its value. -/
def read (digits : List Char) : Except TooLong Nat :=
  if digits.length ≤ digitLimit then .ok (value digits) else .error ⟨digits.length⟩

/-- A number is writable if its digits are within the limit. It is opened by name only, because the
power is too large to be unfolded. -/
@[irreducible]
def isWritable (number : Int) : Bool := number.natAbs < Nat.pow 10 digitLimit

theorem isWritable_iff {number : Int} :
    isWritable number = true ↔ number.natAbs < Nat.pow 10 digitLimit := by
  unfold isWritable
  exact decide_eq_true_iff

/-- The message tells that a number is not writable. -/
def unwritableMessage : String :=
  s!"Exceeds the limit ({digitLimit} digits) for integer string conversion; " ++
    "use sys.set_int_max_str_digits() to increase the limit"

theorem isDigits_toDigits (number : Nat) : isDigits (Nat.toDigits 10 number) = true := by
  have all : (Nat.toDigits 10 number).all Char.isDigit = true := by
    rw [List.all_eq_true]
    intro digit member
    exact Nat.isDigit_of_mem_toDigits (by decide) (by decide) member
  cases digits : Nat.toDigits 10 number with
  | nil => exact absurd digits Nat.toDigits_ne_nil
  | cons digit rest => rw [digits] at all; simp [isDigits, all]

@[simp] theorem value_toDigits (number : Nat) : value (Nat.toDigits 10 number) = number :=
  Nat.ofDigitChars_ten_toDigits

/-- Each further digit multiplies the bound by ten. -/
theorem ofDigitChars_lt {digits : List Char} (decimal : ∀ digit ∈ digits, digit.isDigit = true)
    (start : Nat) : Nat.ofDigitChars 10 digits start < (start + 1) * Nat.pow 10 digits.length := by
  induction digits generalizing start with
  | nil =>
      rw [Nat.ofDigitChars_nil, List.length_nil, show Nat.pow 10 0 = 1 from rfl]
      omega
  | cons digit rest inductionHypothesis =>
      have small : digit.toNat - '0'.toNat < 10 := by
        have inside := decimal digit (by simp)
        simp only [Char.isDigit, Bool.and_eq_true, decide_eq_true_eq, ge_iff_le,
          UInt32.le_iff_toNat_le] at inside
        change 48 ≤ digit.toNat ∧ digit.toNat ≤ 57 at inside
        change digit.toNat - 48 < 10
        omega
      have tail := inductionHypothesis (fun other member => decimal other (by simp [member]))
        (10 * start + (digit.toNat - '0'.toNat))
      rw [Nat.ofDigitChars_cons]
      refine Nat.lt_of_lt_of_le tail ?_
      rw [List.length_cons, show Nat.pow 10 (rest.length + 1) = Nat.pow 10 rest.length * 10 from rfl,
        Nat.mul_comm (Nat.pow 10 rest.length) 10, ← Nat.mul_assoc]
      exact Nat.mul_le_mul_right _ (by omega)

/-- The value of a short run of digits is below the power of ten at the limit. -/
theorem value_lt {digits : List Char} {limit : Nat} (isNumber : isDigits digits = true)
    (short : digits.length ≤ limit) : value digits < Nat.pow 10 limit := by
  simp only [isDigits, Bool.and_eq_true, List.all_eq_true] at isNumber
  have bound := ofDigitChars_lt isNumber.2 0
  rw [Nat.zero_add, Nat.one_mul] at bound
  exact Nat.lt_of_lt_of_le bound (Nat.pow_le_pow_right (by decide) short)

theorem length_toDigits_le {number limit : Nat} (positive : 0 < limit)
    (small : number < Nat.pow 10 limit) : (Nat.toDigits 10 number).length ≤ limit :=
  (Nat.length_toDigits_le_iff (by decide) positive).mpr small

end OfficeMachine.Numeral
