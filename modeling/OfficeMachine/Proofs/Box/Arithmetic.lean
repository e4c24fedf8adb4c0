/-
This file tells what the arithmetic on boxes gives. An operation returns its exact result, or it tells
boxes of the wrong kinds from a result out of range, and what it has done can be taken back.
-/

import OfficeMachine.Machine.Fault

namespace OfficeMachine

namespace Numeral

/-- A number of ten digits and an amount with one digit less than the limit have a writable sum. -/
theorem isWritable_add {number amount : Int} (least : -10000000000 < number)
    (greatest : number < 10000000000) (short : amount.natAbs < Nat.pow 10 (digitLimit - 1)) :
    isWritable (number + amount) = true := by
  have room (limit : Nat) (long : 10 ≤ limit) (below : amount.natAbs < Nat.pow 10 limit) :
      (number + amount).natAbs < Nat.pow 10 (limit + 1) := by
    have fits : Nat.pow 10 10 ≤ Nat.pow 10 limit := Nat.pow_le_pow_right (by decide) long
    rw [show Nat.pow 10 10 = 10000000000 from rfl] at fits
    rw [show Nat.pow 10 (limit + 1) = Nat.pow 10 limit * 10 from rfl]
    omega
  rw [isWritable_iff, show digitLimit = (digitLimit - 1) + 1 from rfl]
  exact room (digitLimit - 1) (by decide) short

/-- The numbers that boxes can lead to in one step are far below the limit of digits. -/
theorem isWritable_of_bounds {number : Int} (least : -10000000000 < number)
    (greatest : number < 10000000000) : isWritable number = true := by
  have room (limit : Nat) : (0 : Int).natAbs < Nat.pow 10 limit := Nat.pow_pos (by decide)
  have sum := isWritable_add least greatest (room _)
  rwa [Int.add_zero] at sum

end Numeral

/-- A number in a box can be written. -/
theorem Number.isWritable_value (number : Number) : Numeral.isWritable number.value = true := by
  have atLeast := number.atLeast
  have atMost := number.atMost
  exact Numeral.isWritable_of_bounds (by omega) (by omega)

theorem Number.isWritable_sum (first second : Number) :
    Numeral.isWritable (first.value + second.value) = true := by
  have := first.atLeast; have := first.atMost
  have := second.atLeast; have := second.atMost
  exact Numeral.isWritable_of_bounds (by omega) (by omega)

theorem Number.isWritable_difference (first second : Number) :
    Numeral.isWritable (first.value - second.value) = true := by
  have := first.atLeast; have := first.atMost
  have := second.atLeast; have := second.atMost
  exact Numeral.isWritable_of_bounds (by omega) (by omega)

/-- A result out of range counts as an overflow, also if it cannot be written. -/
theorem Number.ofResult_of_none {result : Int} (outOfRange : ofInt? result = none) :
    ∃ error, ofResult result = .error error ∧ error.faultKind = .overflow := by
  unfold ofResult
  rw [outOfRange]
  generalize Numeral.isWritable result = writable
  cases writable with
  | false => exact ⟨.unwritable, rfl, rfl⟩
  | true => exact ⟨.overflow result, rfl, rfl⟩

/-- The distance of two letters is always in range. -/
theorem Box.subtract_letters (first second : Letter) :
    (Box.letter first).subtract (.letter second) =
      Number.ofResult (first.distance second).value :=
  (Number.ofResult_eq_ok_iff.mpr rfl).symm

/-- The measure of a box is its number, or the code of its letter. -/
def Box.measure : Box → Int
  | .number content => content.value
  | .letter content => content.character.toNat

/-- A calculation is exact if it returns the exact result for boxes of suitable kinds, as long as this
is in range. Otherwise it overflows, and it refuses boxes of other kinds. -/
structure IsExact (found : Except ArithmeticError Number) (suitable : Prop) (result : Int)
    (refusal : ArithmeticError) : Prop where
  returns (number : Number) : found = .ok number ↔ suitable ∧ number.value = result
  succeeds : (∃ number, found = .ok number) ↔
    suitable ∧ Number.least ≤ result ∧ result ≤ Number.greatest
  overflows (large : Int) : found = .error (.overflow large) ↔
    suitable ∧ large = result ∧ (large < Number.least ∨ Number.greatest < large)
  refuses : found = .error refusal ↔ ¬suitable

section IsExact

variable {suitable : Prop} {result : Int} {refusal : ArithmeticError}

theorem Number.exists_value_eq_iff :
    (∃ number : Number, number.value = result) ↔ least ≤ result ∧ result ≤ greatest := by
  constructor
  · rintro ⟨number, rfl⟩
    exact ⟨number.atLeast, number.atMost⟩
  · rintro ⟨atLeast, atMost⟩
    exact ⟨⟨result, atLeast, atMost⟩, rfl⟩

/-- The only error of a result that can be written is that it is out of range. -/
theorem Number.ofResult_eq_error_iff (short : Numeral.isWritable result = true)
    {error : ArithmeticError} :
    ofResult result = .error error ↔
      error = .overflow result ∧ (result < least ∨ greatest < result) := by
  rw [← ofInt?_eq_none_iff, ofResult, if_pos short]
  cases ofInt? result with
  | none => simp [eq_comm]
  | some number => simp

theorem isExact_ofResult (kinds : suitable) (short : Numeral.isWritable result = true)
    (mismatch : ∀ large, refusal ≠ .overflow large) :
    IsExact (Number.ofResult result) suitable result refusal where
  returns number := by rw [Number.ofResult_eq_ok_iff, and_iff_right kinds]
  succeeds := by
    rw [and_iff_right kinds, ← Number.exists_value_eq_iff]
    exact exists_congr fun _ => Number.ofResult_eq_ok_iff
  overflows large := by
    rw [Number.ofResult_eq_error_iff short, and_iff_right kinds, ArithmeticError.overflow.injEq]
    constructor
    · rintro ⟨rfl, outside⟩
      exact ⟨rfl, outside⟩
    · rintro ⟨rfl, outside⟩
      exact ⟨rfl, outside⟩
  refuses := by
    rw [Number.ofResult_eq_error_iff short]
    exact iff_of_false (fun same => mismatch _ same.1) (not_not_intro kinds)

theorem isExact_refusal (kinds : ¬suitable) (mismatch : ∀ large, refusal ≠ .overflow large) :
    IsExact (.error refusal) suitable result refusal where
  returns number := by simp only [reduceCtorEq, kinds, false_and]
  succeeds := by simp only [reduceCtorEq, exists_false, kinds, false_and]
  overflows large := by simp only [Except.error.injEq, mismatch, kinds, false_and]
  refuses := iff_of_true rfl kinds

end IsExact

namespace Box

/-- Only numbers are added. -/
theorem isExact_add (left right : Box) :
    IsExact (left.add right) (left.isLetter = false ∧ right.isLetter = false)
      (left.measure + right.measure) (.cannotAdd left right) := by
  cases left with
  | letter letter => exact isExact_refusal nofun nofun
  | number first =>
      cases right with
      | letter letter => exact isExact_refusal nofun nofun
      | number second =>
          exact isExact_ofResult ⟨rfl, rfl⟩ (first.isWritable_sum second) nofun

/-- The distance of two letters is at most that of A and Z. -/
theorem exists_distance (first second : Letter) :
    ∃ distance, (Box.letter first).subtract (.letter second) = .ok distance ∧
      -25 ≤ distance.value ∧ distance.value ≤ 25 := by
  refine ⟨first.distance second, rfl, ?_⟩
  have := first.atLeast; have := first.atMost
  have := second.atLeast; have := second.atMost
  change -25 ≤ (first.character.toNat : Int) - second.character.toNat ∧
    (first.character.toNat : Int) - second.character.toNat ≤ 25
  omega

/-- Only boxes of one kind are subtracted. -/
theorem isExact_subtract (left right : Box) :
    IsExact (left.subtract right) (left.isLetter = right.isLetter)
      (left.measure - right.measure) (.cannotSubtract left right) := by
  cases left with
  | letter first =>
      cases right with
      | number second => exact isExact_refusal nofun nofun
      | letter second =>
          rw [subtract_letters]
          exact isExact_ofResult rfl (first.distance second).isWritable_value nofun
  | number first =>
      cases right with
      | letter second => exact isExact_refusal nofun nofun
      | number second => exact isExact_ofResult rfl (first.isWritable_difference second) nofun

/-- Only numbers are bumped. -/
theorem isExact_bump (box : Box) {amount : Int}
    (short : amount.natAbs < Nat.pow 10 (Numeral.digitLimit - 1)) :
    IsExact (box.bump amount) (box.isLetter = false) (box.measure + amount) (.cannotBump box) := by
  cases box with
  | letter letter => exact isExact_refusal nofun nofun
  | number number =>
      have := number.atLeast; have := number.atMost
      exact isExact_ofResult rfl (Numeral.isWritable_add (by omega) (by omega) short) nofun

variable {left right box : Box}

theorem exists_number (isNumber : box.isLetter = false) : ∃ content, box = .number content := by
  cases box with
  | number content => exact ⟨content, rfl⟩
  | letter letter => cases isNumber

theorem exists_letter (isLetter : box.isLetter = true) : ∃ content, box = .letter content := by
  cases box with
  | number content => cases isLetter
  | letter content => exact ⟨content, rfl⟩

/-- The sum does not depend on the order of the boxes, and neither does the kind of its error. -/
theorem add_mapError_comm (left right : Box) :
    (left.add right).mapError ArithmeticError.faultKind =
      (right.add left).mapError ArithmeticError.faultKind := by
  cases left with
  | letter first => cases right <;> rfl
  | number first =>
      cases right with
      | letter second => rfl
      | number second => rw [Box.add, Box.add, Int.add_comm]

/-- A number goes back into the box from which it came. -/
theorem map_ofResult {number : Number} {result : Int} (same : number.value = result) :
    (Number.ofResult result).map Box.number = .ok (.number number) := by
  rw [Number.ofResult_eq_ok_iff.mpr same]
  rfl

/-- The second box is taken from a sum again. -/
theorem subtract_of_add {sum : Number} (added : left.add right = .ok sum) :
    ((Box.number sum).subtract right).map Box.number = .ok left := by
  obtain ⟨⟨isNumber, too⟩, same⟩ := ((isExact_add left right).returns sum).mp added
  obtain ⟨first, rfl⟩ := exists_number isNumber
  obtain ⟨second, rfl⟩ := exists_number too
  apply map_ofResult
  change sum.value = first.value + second.value at same
  omega

/-- The second number is added to a difference again. -/
theorem add_of_subtract (isNumber : left.isLetter = false) {difference : Number}
    (taken : left.subtract right = .ok difference) :
    ((Box.number difference).add right).map Box.number = .ok left := by
  obtain ⟨kinds, same⟩ := ((isExact_subtract left right).returns difference).mp taken
  obtain ⟨first, rfl⟩ := exists_number isNumber
  obtain ⟨second, rfl⟩ := exists_number kinds.symm
  apply map_ofResult
  change difference.value = first.value - second.value at same
  omega

/-- A bump is undone by the opposite one. -/
theorem bump_of_bump {amount : Int} {moved : Number} (bumped : box.bump amount = .ok moved) :
    ((Box.number moved).bump (-amount)).map Box.number = .ok box := by
  cases box with
  | letter letter => cases bumped
  | number content =>
      have same : moved.value = content.value + amount := Number.ofResult_eq_ok_iff.mp bumped
      apply map_ofResult
      omega

end Box

end OfficeMachine
