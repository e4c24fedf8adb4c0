/-
This file reads a box from a token. A token is one capital letter, or digits with an optional sign
whose number is in range, with blanks around it ignored.
-/

import OfficeMachine.Box
import OfficeMachine.Numeral.Digits
import OfficeMachine.Text.Blank
import OfficeMachine.Text.Quoted

namespace OfficeMachine

inductive TokenError where
  | outOfRange (text : String) (number : Int)
  | tooLong (failure : Numeral.TooLong)
  | unrecognised (text : String)
  deriving DecidableEq

/-- The message tells which value lies outside the range of numbers. -/
def Number.outsideMessage (value : Int) : String := s!"{value} outside {Number.rangeText}"

def TokenError.message : TokenError → String
  | .outOfRange text number =>
      s!"value out of range: {Text.quoted text} ({Number.outsideMessage number})"
  | .tooLong failure => failure.message
  | .unrecognised text => s!"not an integer or an uppercase letter: {Text.quoted text}"

/-- A sign stands in front of the digits at most once. -/
def splitSign : List Char → Bool × List Char
  | '-' :: digits => (true, digits)
  | '+' :: digits => (false, digits)
  | digits => (false, digits)

/-- A trimmed text of one character is a letter if that is a capital. -/
def Letter.ofText? : List Char → Option Letter
  | [character] => Letter.ofChar? character
  | _ => none

/-- This function reads digits with an optional sign as a number in range. -/
def Number.ofText (text : List Char) : Except TokenError Number :=
  let (negative, digits) := splitSign text
  if Numeral.isDigits digits then
    match Numeral.read digits with
    | .error failure => .error (.tooLong failure)
    | .ok magnitude =>
        let value : Int := if negative then -magnitude else magnitude
        match Number.ofInt? value with
        | some number => .ok number
        | none => .error (.outOfRange (String.ofList text) value)
  else .error (.unrecognised (String.ofList text))

/-- The token of a box is read without the blanks around it. -/
def Box.ofToken (token : String) : Except TokenError Box :=
  let text := Text.trim token.toList
  match Letter.ofText? text with
  | some content => .ok (.letter content)
  | none => (Number.ofText text).map Box.number

end OfficeMachine
