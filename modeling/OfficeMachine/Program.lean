/-
This file defines programs. A program is a row of instructions together with the labels that its
script declared.
-/

import OfficeMachine.Instruction
import OfficeMachine.Table

namespace OfficeMachine

structure Program where
  instructions : Array Instruction
  labels : Table String Int
  deriving DecidableEq

def Program.size (program : Program) : Nat := program.instructions.size

/-- The actions of a program are its instructions without their lines. -/
def Program.actions (program : Program) : List Instruction :=
  program.instructions.toList.map Instruction.unplaced

/-- Two programs agree if they have the same actions, whatever their lines and labels. -/
def Program.Agrees (first second : Program) : Prop := first.actions = second.actions

instance (first second : Program) : Decidable (first.Agrees second) :=
  inferInstanceAs (Decidable (_ = _))

end OfficeMachine
