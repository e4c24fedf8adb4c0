/-
This file tells how a step can fail and how a failure is reported.
-/

import OfficeMachine.Box.Arithmetic
import OfficeMachine.Floor

namespace OfficeMachine

inductive FaultKind where
  | emptyHand
  | uninitializedCell
  | typeMismatch
  | addressOutOfRange
  | overflow
  deriving DecidableEq

def FaultKind.text : FaultKind → String
  | .emptyHand => "empty hand"
  | .uninitializedCell => "uninitialized cell"
  | .typeMismatch => "type mismatch"
  | .addressOutOfRange => "address out of range"
  | .overflow => "overflow"

/-- The cause of a fault is an empty hand, a letter where a number is tested, a tile or the
arithmetic. -/
inductive Cause where
  | emptyHand
  | letterInHand (opcode : Opcode) (letter : Letter)
  | tile (error : TileError)
  | arithmetic (error : ArithmeticError)
  deriving DecidableEq

def TileError.faultKind : TileError → FaultKind
  | .outside _ _ => .addressOutOfRange
  | .empty _ | .emptyPointer _ => .uninitializedCell
  | .letterPointer _ _ => .typeMismatch

def ArithmeticError.faultKind : ArithmeticError → FaultKind
  | .cannotAdd _ _ | .cannotSubtract _ _ | .cannotBump _ => .typeMismatch
  | .overflow _ | .unwritable => .overflow

def Cause.kind : Cause → FaultKind
  | .emptyHand => .emptyHand
  | .letterInHand _ _ => .typeMismatch
  | .tile error => error.faultKind
  | .arithmetic error => error.faultKind

def Cause.detail : Cause → String
  | .emptyHand => "nothing in hand"
  | .letterInHand opcode letter =>
      s!"{opcode.word} needs a number in hand, got letter {letter.text}"
  | .tile error => error.message
  | .arithmetic error => error.message

/-- A fault reports the instruction that failed and the boxes that had reached the outbox. -/
structure Fault where
  kind : FaultKind
  position : Int
  instruction : Instruction
  detail : String
  output : List Box
  deriving DecidableEq

/-- The message names the line of the instruction if it has one. -/
def Fault.message (fault : Fault) : String :=
  let line :=
    if fault.instruction.line = 0 then "" else s!", line {fault.instruction.line}"
  s!"{fault.kind.text} at instruction {fault.position} ({fault.instruction.text}{line}): " ++
    fault.detail

end OfficeMachine
