/-
This file performs one instruction. The parts of a step work on the machine in place and one after
another, and a part that fails leaves the machine as the parts before it made it.
-/

import OfficeMachine.Machine
import OfficeMachine.Machine.Fault

namespace OfficeMachine

/-- A step fails with a cause, or because its instruction lacks the tile that it needs. -/
inductive StepError where
  | fault (cause : Cause)
  | noTile
  deriving DecidableEq

/-- A deed works on a machine in place. Its failure comes with the machine that it leaves. -/
abbrev Deed := EStateM StepError Machine

namespace Deed

def held : Deed Box := do
  match (← get).hand with
  | some box => return box
  | none => throw (.fault .emptyHand)

/-- The number in hand decides a conditional jump. -/
def heldNumber (opcode : Opcode) : Deed Number := do
  match ← held with
  | .number number => return number
  | .letter letter => throw (.fault (.letterInHand opcode letter))

/-- This deed looks at the floor that the machine has at this moment. -/
def onFloor {Result : Type} (look : Floor → Except TileError Result) : Deed Result := do
  match look (← get).floor with
  | .ok result => return result
  | .error error => throw (.fault (.tile error))

def calculated (result : Except ArithmeticError Number) : Deed Number :=
  match result with
  | .ok number => return number
  | .error error => throw (.fault (.arithmetic error))

/-- The effective address is the tile that the instruction works on. -/
def effective (instruction : Instruction) : Deed Nat :=
  match instruction.address with
  | some address => onFloor fun floor => floor.resolve address
  | none => throw .noTile

def readTile (instruction : Instruction) : Deed Box := do
  let address ← effective instruction
  onFloor fun floor => floor.read address

def writeTile (address : Nat) (box : Box) : Deed Unit := do
  let floor ← onFloor fun floor => floor.write address box
  modify fun machine => { machine with floor := floor }

def setHand (hand : Option Box) : Deed Unit :=
  modify fun machine => { machine with hand := hand }

def ship (box : Box) : Deed Unit :=
  modify fun machine => { machine with shipped := box :: machine.shipped }

/-- The hand takes the sum or difference of what it holds and what the tile holds. -/
def combine (instruction : Instruction)
    (operation : Box → Box → Except ArithmeticError Number) : Deed Unit := do
  let left ← held
  let right ← readTile instruction
  let result ← calculated (operation left right)
  setHand (some (.number result))

/-- A bump changes the number on a tile and takes a copy of it into the hand. -/
def bump (instruction : Instruction) (amount : Int) : Deed Unit := do
  let address ← effective instruction
  let box ← onFloor fun floor => floor.read address
  let result ← calculated (box.bump amount)
  writeTile address (.number result)
  setHand (some (.number result))

/-- An empty inbox halts the machine and sends it behind its program. -/
def takeFromInbox : Deed (Option Nat) := do
  match (← get).inbox with
  | box :: rest =>
      modify fun machine => { machine with hand := some box, inbox := rest }
      return none
  | [] =>
      modify fun machine => { machine with stop := some .halt }
      return some (← get).program.size

/-- The worker obeys an instruction and tells where to go on, if that is not the next one. A jump
without a target falls through. -/
def obey (instruction : Instruction) : Deed (Option Nat) :=
  match instruction.opcode with
  | .inbox => takeFromInbox
  | .outbox => do
      ship (← held)
      setHand none
      return none
  | .copyFrom => do
      setHand (some (← readTile instruction))
      return none
  | .copyTo => do
      let box ← held
      writeTile (← effective instruction) box
      return none
  | .add => do
      combine instruction Box.add
      return none
  | .subtract => do
      combine instruction Box.subtract
      return none
  | .bumpUp => do
      bump instruction 1
      return none
  | .bumpDown => do
      bump instruction (-1)
      return none
  | .jump => return instruction.target
  | .jumpIfZero => do
      let number ← heldNumber .jumpIfZero
      return if number.value = 0 then instruction.target else none
  | .jumpIfNegative => do
      let number ← heldNumber .jumpIfNegative
      return if number.value < 0 then instruction.target else none

/-- A step that was obeyed counts, and the position moves. -/
def perform (instruction : Instruction) : Deed Unit := do
  match ← obey instruction with
  | some target => modify fun machine => machine.continueAt target
  | none => modify Machine.advance

end Deed

/-- The current instruction exists while the position is inside the program. -/
def Machine.current? (machine : Machine) : Option Instruction :=
  machine.program.instructions[machine.position]?

end OfficeMachine
