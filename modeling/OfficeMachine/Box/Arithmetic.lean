/-
This file adds, subtracts and bumps boxes. Each operation gives a number that is exact and in
range, or it tells why there is none.
-/

import OfficeMachine.Box
import OfficeMachine.Numeral.Digits

namespace OfficeMachine

/-- Arithmetic fails on boxes of the wrong kind and on results out of range. A result with too
many digits cannot even be shown. -/
inductive ArithmeticError where
  | cannotAdd (left right : Box)
  | cannotSubtract (left right : Box)
  | cannotBump (box : Box)
  | overflow (result : Int)
  | unwritable
  deriving DecidableEq

def ArithmeticError.message : ArithmeticError → String
  | .cannotAdd left right =>
      s!"cannot add {left.kindText} {left.text} and {right.kindText} {right.text}"
  | .cannotSubtract left right =>
      s!"cannot subtract {right.kindText} {right.text} from {left.kindText} {left.text}"
  | .cannotBump box => s!"cannot bump {box.kindText} {box.text}"
  | .overflow result => s!"result {result} outside {Number.rangeText}"
  | .unwritable => Numeral.unwritableMessage

/-- A result becomes a number if it is in range. -/
def Number.ofResult (result : Int) : Except ArithmeticError Number :=
  match Number.ofInt? result with
  | some number => .ok number
  | none => .error (if Numeral.isWritable result then .overflow result else .unwritable)

/-- Two numbers add to a number. -/
def Box.add : Box → Box → Except ArithmeticError Number
  | .number left, .number right => Number.ofResult (left.value + right.value)
  | left, right => .error (.cannotAdd left right)

/-- The distance of two letters counts the places from the second to the first. -/
def Letter.distance (left right : Letter) : Number where
  value := (left.character.toNat : Int) - right.character.toNat
  atLeast := by
    have := left.atLeast; have := left.atMost; have := right.atLeast; have := right.atMost
    omega
  atMost := by
    have := left.atLeast; have := left.atMost; have := right.atLeast; have := right.atMost
    omega

/-- Two numbers subtract to a number, and two letters to their distance. -/
def Box.subtract : Box → Box → Except ArithmeticError Number
  | .number left, .number right => Number.ofResult (left.value - right.value)
  | .letter left, .letter right => .ok (left.distance right)
  | left, right => .error (.cannotSubtract left right)

/-- A bump moves a number by the given amount. -/
def Box.bump (box : Box) (amount : Int) : Except ArithmeticError Number :=
  match box with
  | .number content => Number.ofResult (content.value + amount)
  | .letter content => .error (.cannotBump (.letter content))

theorem Number.ofResult_eq_ok_iff {result : Int} {number : Number} :
    ofResult result = .ok number ↔ number.value = result := by
  unfold ofResult
  rw [← ofInt?_eq_some_iff]
  cases ofInt? result <;> simp

end OfficeMachine
