/-
This file reads the counts that options take. A count may stand between blanks, may carry a sign
and single underscores between its digits, and may use the digits of any script.
-/

import OfficeMachine.Numeral.Digits
import OfficeMachine.Numeral.DigitTable
import OfficeMachine.Text.Blank
import OfficeMachine.Text.Quoted

namespace OfficeMachine.Numeral

/-- Padding around a number is blank and no information separator. -/
def isPadding (character : Char) : Bool :=
  Text.isBlank character && !(0x1C ≤ character.toNat && character.toNat ≤ 0x1F)

/-- This function reads digits with single underscores between them. -/
def groupedDigits? : List Char → Option (List Nat)
  | [] => none
  | [last] => (digitValue? last).map ([·])
  | first :: '_' :: rest => do
      let digit ← digitValue? first
      let digits ← groupedDigits? rest
      return digit :: digits
  | first :: rest => do
      let digit ← digitValue? first
      let digits ← groupedDigits? rest
      return digit :: digits

/-- The digits of a number are read from the most significant one. -/
def ofDigitValues (digits : List Nat) : Nat :=
  digits.foldl (fun number digit => 10 * number + digit) 0

/-- An integer is a run of at most as many digits as the limit, with an optional sign. -/
def integer? (text : String) : Option Int := do
  let padded := text.toList.dropWhile isPadding
  let body := (padded.reverse.dropWhile isPadding).reverse
  let (negative, magnitude) := match body with
    | '-' :: rest => (true, rest)
    | '+' :: rest => (false, rest)
    | rest => (false, rest)
  let digits ← groupedDigits? magnitude
  guard (digits.length ≤ digitLimit)
  let number : Int := ofDigitValues digits
  return if negative then -number else number

/-- A text fails to be a count if it is no integer or a negative one. -/
inductive CountError where
  | notAnInteger (text : String)
  | negative (number : Int)
  deriving DecidableEq

def CountError.message : CountError → String
  | .notAnInteger text => s!"not an integer: {Text.quoted text}"
  | .negative number => s!"must be >= 0, got {number}"

def count (text : String) : Except CountError Nat :=
  match integer? text with
  | none => .error (.notAnInteger text)
  | some (.ofNat number) => .ok number
  | some (.negSucc number) => .error (.negative (.negSucc number))

end OfficeMachine.Numeral
