/-
This file defines the machine: the worker with one hand, the floor, the two conveyor belts and the
program that drives them.
-/

import OfficeMachine.Floor
import OfficeMachine.Program

namespace OfficeMachine

/-- A machine stops behind its last instruction, or when the inbox has nothing left. -/
inductive Stop where
  | done
  | halt
  deriving DecidableEq

def Stop.text : Stop → String
  | .done => "DONE"
  | .halt => "HALT"

/-- The machine keeps the boxes that it shipped with the newest one in front. -/
structure Machine where
  program : Program
  floor : Floor
  hand : Option Box
  inbox : List Box
  shipped : List Box
  position : Nat
  steps : Nat
  stop : Option Stop

namespace Machine

/-- A new machine stands at the first instruction with an empty hand. -/
def start (program : Program) (floor : Floor) (inbox : List Box) : Machine where
  program := program
  floor := floor
  hand := none
  inbox := inbox
  shipped := []
  position := 0
  steps := 0
  stop := none

/-- The floor of a new machine is laid out first. -/
def build (program : Program) (initial : Table Int Box) (inbox : List Box)
    (bound : Option Int) : Except LayoutError Machine :=
  (Floor.lay initial bound).map fun floor => start program floor inbox

/-- The outbox holds the shipped boxes in the order in which they came. -/
def outbox (machine : Machine) : List Box := machine.shipped.reverse

/-- Further boxes arrive at the end of the inbox. -/
def feed (machine : Machine) (boxes : List Box) : Machine :=
  { machine with inbox := machine.inbox ++ boxes }

/-- A step that is over counts, and the position moves. -/
def continueAt (machine : Machine) (position : Nat) : Machine :=
  { machine with position := position, steps := machine.steps + 1 }

def advance (machine : Machine) : Machine := machine.continueAt (machine.position + 1)

end Machine

end OfficeMachine
