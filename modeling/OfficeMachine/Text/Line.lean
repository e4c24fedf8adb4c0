/-
This file cuts a text into physical lines. A carriage return ends a line alone or together with
the line feed that follows it, and unifying the line ends first removes that case.
-/

import OfficeMachine.Text.Blank

namespace OfficeMachine.Text

/-- A line ends at these characters. -/
def isLineEnd (character : Char) : Bool :=
  let point := character.toNat
  (0x0A ≤ point && point ≤ 0x0D) || (0x1C ≤ point && point ≤ 0x1E) ||
    point == 0x85 || point == 0x2028 || point == 0x2029

/-- Each carriage return becomes a line feed and takes a line feed after it with it. -/
def unifyLineEnds : List Char → List Char
  | [] => []
  | '\r' :: '\n' :: rest => '\n' :: unifyLineEnds rest
  | '\r' :: rest => '\n' :: unifyLineEnds rest
  | character :: rest => character :: unifyLineEnds rest

/-- The lines are the pieces between line ends, and a final line end opens no line. -/
def lines (text : List Char) : List (List Char) :=
  let parts := pieces isLineEnd (unifyLineEnds text)
  if parts.getLast? = some [] then parts.dropLast else parts

end OfficeMachine.Text
