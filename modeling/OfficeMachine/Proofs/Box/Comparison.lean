/-
This file ties the order of boxes to their arithmetic. Boxes that have a difference are ordered by its
sign, boxes whose difference is too large by their own signs, and all others have no order.
-/

import OfficeMachine.Box.Comparison
import OfficeMachine.Proofs.Box.Arithmetic

namespace OfficeMachine

/-- A difference orders two boxes if each comparison tells its sign. -/
structure Box.IsOrderedBy (left right : Box) (difference : Int) : Prop where
  less : Comparison.less.holds? left right = some (decide (difference < 0))
  equal : left = right ↔ difference = 0
  greater : Comparison.greater.holds? left right = some (decide (0 < difference))
  lessOrEqual : Comparison.lessOrEqual.holds? left right = some (decide (difference ≤ 0))
  greaterOrEqual : Comparison.greaterOrEqual.holds? left right = some (decide (0 ≤ difference))

section Order

variable {left right : Box}

theorem Box.less?_of_kinds (kinds : left.isLetter = right.isLetter) :
    left.less? right = some (decide (left.measure < right.measure)) := by
  cases left with
  | number first =>
      cases right with
      | number second => rfl
      | letter second => cases kinds
  | letter first =>
      cases right with
      | number second => cases kinds
      | letter second => simp only [Box.less?, Box.measure, Int.ofNat_lt]

theorem Box.eq_iff_measure_eq (kinds : left.isLetter = right.isLetter) :
    left = right ↔ left.measure = right.measure := by
  cases left with
  | number first =>
      cases right with
      | number second => rw [Box.number.injEq, Number.mk.injEq]; rfl
      | letter second => cases kinds
  | letter first =>
      cases right with
      | number second => cases kinds
      | letter second =>
          rw [Box.letter.injEq, Letter.mk.injEq, ← Char.toNat_inj]
          exact Int.ofNat_inj.symm

/-- Boxes of one kind are ordered by the difference of their measures. -/
theorem Box.isOrderedBy_measure (kinds : left.isLetter = right.isLetter) :
    left.IsOrderedBy right (left.measure - right.measure) := by
  have equal := Box.eq_iff_measure_eq kinds
  have less := Box.less?_of_kinds kinds
  constructor
  case equal => rw [equal, Int.sub_eq_zero]
  all_goals
    rw [Comparison.holds?, less, Option.map_some, Option.some.injEq, Bool.eq_iff_iff]
    simp only [Bool.or_eq_true, Bool.and_eq_true, Bool.not_eq_true', decide_eq_true_eq,
      decide_eq_false_iff_not, ne_eq, equal]
    omega

/-- Boxes of two kinds have no order. -/
theorem Box.less?_eq_none_iff : left.less? right = none ↔ left.isLetter ≠ right.isLetter := by
  cases left <;> cases right <;> simp [Box.less?, Box.isLetter]

theorem Comparison.holds?_eq_none_iff (comparison : Comparison) :
    comparison.holds? left right = none ↔ left.isLetter ≠ right.isLetter := by
  rw [Comparison.holds?, Option.map_eq_none_iff, Box.less?_eq_none_iff]

/-- A difference is out of range only for numbers of which one is negative, and this is the lesser
one. -/
theorem Box.signs_of_overflow {large : Int} (fails : left.subtract right = .error (.overflow large)) :
    ∃ first second : Number, left = .number first ∧ right = .number second ∧
      (first.value < 0 ↔ ¬second.value < 0) ∧
      Comparison.less.holds? left right = some (decide (first.value < 0)) := by
  obtain ⟨kinds, same, outside⟩ := ((isExact_subtract left right).overflows large).mp fails
  have less := (isOrderedBy_measure kinds).less
  cases left with
  | letter first =>
      obtain ⟨second, rfl⟩ := exists_letter kinds.symm
      obtain ⟨distance, found, -⟩ := exists_distance first second
      cases fails.symm.trans found
  | number first =>
      obtain ⟨second, rfl⟩ := exists_number kinds.symm
      have := first.atLeast; have := first.atMost
      have := second.atLeast; have := second.atMost
      change large = first.value - second.value at same
      rw [Number.least, Number.greatest] at outside
      refine ⟨first, second, rfl, rfl, by omega, ?_⟩
      rw [less, decide_eq_decide.mpr]
      change first.value - second.value < 0 ↔ first.value < 0
      omega

end Order

namespace Box

/-- Arithmetic on boxes is exact, can be taken back and agrees with their order. The amount of a bump
has fewer digits than the limit, because a result beyond it could not even be reported. -/
theorem arithmetic_agrees_with_order (left right : Box) (amount : Int)
    (short : amount.natAbs < Nat.pow 10 (Numeral.digitLimit - 1)) :
    (IsExact (left.add right) (left.isLetter = false ∧ right.isLetter = false)
        (left.measure + right.measure) (.cannotAdd left right) ∧
      IsExact (left.subtract right) (left.isLetter = right.isLetter)
        (left.measure - right.measure) (.cannotSubtract left right) ∧
      IsExact (left.bump amount) (left.isLetter = false)
        (left.measure + amount) (.cannotBump left) ∧
      (left.isLetter = true → right.isLetter = true →
        ∃ distance, left.subtract right = .ok distance ∧
          -25 ≤ distance.value ∧ distance.value ≤ 25)) ∧
    ((left.add right).mapError ArithmeticError.faultKind =
        (right.add left).mapError ArithmeticError.faultKind ∧
      (∀ sum, left.add right = .ok sum →
        ((Box.number sum).subtract right).map Box.number = .ok left) ∧
      (∀ moved, left.bump amount = .ok moved →
        ((Box.number moved).bump (-amount)).map Box.number = .ok left) ∧
      ∀ difference, left.isLetter = false → right.isLetter = false →
        left.subtract right = .ok difference →
        ((Box.number difference).add right).map Box.number = .ok left) ∧
    (∀ difference, left.subtract right = .ok difference →
      left.IsOrderedBy right difference.value) ∧
    (∀ large, left.subtract right = .error (.overflow large) →
      ∃ first second : Number, left = .number first ∧ right = .number second ∧
        (first.value < 0 ↔ ¬second.value < 0) ∧
        Comparison.less.holds? left right = some (decide (first.value < 0))) ∧
    (∀ comparison : Comparison,
      (left.subtract right = .error (.cannotSubtract left right) ↔
        comparison.holds? left right = none) ∧
      (left.subtract right = .error (.cannotSubtract left right) ↔
        comparison.holds? right left = none)) ∧
    (left.subtract right = .error (.cannotSubtract left right) →
      left ≠ right ∧ right.subtract left = .error (.cannotSubtract right left)) := by
  have exactly := isExact_subtract left right
  refine ⟨⟨isExact_add left right, exactly, ?_, ?_⟩,
    ⟨add_mapError_comm left right, fun _ => subtract_of_add, fun _ => bump_of_bump,
      fun _ isNumber _ => add_of_subtract isNumber⟩,
    ?_, fun _ => signs_of_overflow, ?_, ?_⟩
  · exact isExact_bump left short
  · intro isLetter too
    obtain ⟨first, rfl⟩ := exists_letter isLetter
    obtain ⟨second, rfl⟩ := exists_letter too
    exact exists_distance first second
  · intro difference taken
    obtain ⟨kinds, same⟩ := (exactly.returns difference).mp taken
    rw [same]
    exact isOrderedBy_measure kinds
  · intro comparison
    rw [exactly.refuses, comparison.holds?_eq_none_iff, comparison.holds?_eq_none_iff]
    exact ⟨Iff.rfl, ne_comm⟩
  · rw [exactly.refuses, (isExact_subtract right left).refuses]
    exact fun kinds => ⟨fun same => kinds (congrArg isLetter same), Ne.symm kinds⟩

/-- One less than the least number overflows, one more and a bump over the whole range are undone, and
A is less than Z. -/
theorem arithmetic_agrees_with_order_least :
    let least : Box := .number ⟨-2147483648, by decide, by decide⟩
    let one : Box := .number ⟨1, by decide, by decide⟩
    let first : Box := .letter ⟨'A', by decide, by decide⟩
    let last : Box := .letter ⟨'Z', by decide, by decide⟩
    least.subtract one = .error (.overflow (-2147483649)) ∧
      Comparison.less.holds? least one = some true ∧
      ((Box.number ⟨-2147483647, by decide, by decide⟩).subtract one).map Box.number = .ok least ∧
      ((Box.number ⟨0, by decide, by decide⟩).add one).map Box.number = .ok one ∧
      ((Box.number ⟨2147483647, by decide, by decide⟩).bump (-4294967295)).map Box.number =
        .ok least ∧
      first.subtract last = .ok ⟨-25, by decide, by decide⟩ ∧
      Comparison.less.holds? first last = some true ∧
      least.subtract last = .error (.cannotSubtract least last) ∧
      Comparison.greaterOrEqual.holds? last least = none := by
  intro least one first last
  have room (limit : Nat) (long : 10 ≤ limit) : (4294967295 : Int).natAbs < Nat.pow 10 limit :=
    Nat.lt_of_lt_of_le (by decide) (Nat.pow_le_pow_right (by decide) long)
  have short := room (Numeral.digitLimit - 1) (by decide)
  obtain ⟨⟨added, taken, bumped, -⟩, ⟨-, unadded, unbumped, -⟩, -, signs, -⟩ :=
    arithmetic_agrees_with_order least one 4294967295 short
  have sum := (added.returns ⟨-2147483647, by decide, by decide⟩).mpr ⟨⟨rfl, rfl⟩, rfl⟩
  have overflow := (taken.overflows (-2147483649)).mpr ⟨rfl, rfl, by decide⟩
  obtain ⟨number, other, same, -, -, less⟩ := signs _ overflow
  rw [← Box.number.inj same] at less
  have greatest := (bumped.returns ⟨2147483647, by decide, by decide⟩).mpr ⟨rfl, rfl⟩
  obtain ⟨⟨-, same, -⟩, ⟨-, -, -, untaken⟩, -⟩ :=
    arithmetic_agrees_with_order one one 4294967295 short
  have nothing := (same.returns ⟨0, by decide, by decide⟩).mpr ⟨rfl, rfl⟩
  obtain ⟨⟨-, letters, -⟩, -, ordered, -⟩ :=
    arithmetic_agrees_with_order first last 4294967295 short
  have distance := (letters.returns ⟨-25, by decide, by decide⟩).mpr ⟨rfl, rfl⟩
  obtain ⟨⟨-, mixed, -⟩, -, -, -, kinds, -⟩ :=
    arithmetic_agrees_with_order least last 4294967295 short
  have refused := mixed.refuses.mpr nofun
  exact ⟨overflow, less, unadded _ sum, untaken _ rfl rfl nothing, unbumped _ greatest, distance,
    (ordered _ distance).less, refused, (kinds .greaterOrEqual).2.mp refused⟩

end Box

end OfficeMachine
