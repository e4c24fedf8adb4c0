/-
This file cuts a script into numbered lines and keeps those that the worker obeys. A comment, a
picture placement and a blank line are idle, and the first drawing definition closes the script.
-/

import OfficeMachine.Text.Line

namespace OfficeMachine.Script

/-- A line knows its physical number, its trimmed text and the words of it. -/
structure Line where
  number : Nat
  text : String
  tokens : List String
  deriving DecidableEq

def Line.ofRaw (number : Nat) (raw : List Char) : Line where
  number := number
  text := String.ofList (Text.trim raw)
  tokens := (Text.words raw).map String.ofList

/-- The physical lines are numbered from one. -/
def physicalLines (source : String) : List Line :=
  ((Text.lines source.toList).zipIdx 1).map fun (raw, number) => Line.ofRaw number raw

/-- An idle line is blank, starts with two hyphens or places a comment. -/
def Line.isIdle (line : Line) : Bool :=
  match line.tokens with
  | [] => true
  | first :: _ => ['-', '-'].isPrefixOf first.toList || first = "COMMENT"

def Line.isClosing (line : Line) : Bool := line.tokens.head? = some "DEFINE"

/-- The retained lines are the lines before the closing one that are not idle. -/
def retainedLines (source : String) : List Line :=
  ((physicalLines source).takeWhile fun line => !line.isClosing).filter fun line => !line.isIdle

/-- The closing line is the first one that opens the drawings. -/
def closingLine? (source : String) : Option Nat :=
  ((physicalLines source).find? Line.isClosing).map Line.number

end OfficeMachine.Script
