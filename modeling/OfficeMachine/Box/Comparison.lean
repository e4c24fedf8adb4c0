/-
This file compares boxes. Any two boxes are equal or not, but only boxes of one kind have an order.
-/

import OfficeMachine.Box

namespace OfficeMachine

inductive Comparison where
  | less
  | lessOrEqual
  | greater
  | greaterOrEqual
  deriving DecidableEq

/-- The first box is less by its number or by its place in the alphabet. -/
def Box.less? : Box → Box → Option Bool
  | .number left, .number right => some (decide (left.value < right.value))
  | .letter left, .letter right =>
      some (decide (left.character.toNat < right.character.toNat))
  | _, _ => none

/-- Each comparison follows from equality and from being less. -/
def Comparison.holds? (comparison : Comparison) (left right : Box) : Option Bool :=
  (left.less? right).map fun less =>
    match comparison with
    | .less => less
    | .lessOrEqual => less || left = right
    | .greater => !less && left ≠ right
    | .greaterOrEqual => !less

end OfficeMachine
