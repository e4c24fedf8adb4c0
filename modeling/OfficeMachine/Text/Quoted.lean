/-
This file writes a text between quotes on one line, as error messages show it.
-/

import OfficeMachine.Text.Unprintable

namespace OfficeMachine.Text

/-- The hexadecimal digits of a code point are padded with zeros to a fixed width. -/
def hexadecimal (width point : Nat) : List Char :=
  let digits := Nat.toDigits 16 point
  List.replicate (width - digits.length) '0' ++ digits

/-- The double quote delimits a text that holds a single quote and no double quote. -/
def delimiter (text : List Char) : Char :=
  if text.contains '\'' && !text.contains '"' then '"' else '\''

/-- An unprintable character is written by its code point, in the shortest of three widths. -/
def escapedPoint (point : Nat) : List Char :=
  if point ≤ 0xFF then ['\\', 'x'] ++ hexadecimal 2 point
  else if point ≤ 0xFFFF then ['\\', 'u'] ++ hexadecimal 4 point
  else ['\\', 'U'] ++ hexadecimal 8 point

/-- The delimiter, the backslash and each character without a printed form are escaped. -/
def escaped (quote character : Char) : List Char :=
  if character = quote || character = '\\' then ['\\', character]
  else if character = '\n' then ['\\', 'n']
  else if character = '\r' then ['\\', 'r']
  else if character = '\t' then ['\\', 't']
  else if isUnprintable character then escapedPoint character.toNat
  else [character]

/-- The quoted text stands between two delimiters. -/
def quoted (text : String) : String :=
  let quote := delimiter text.toList
  String.ofList (quote :: text.toList.flatMap (escaped quote) ++ [quote])

end OfficeMachine.Text
