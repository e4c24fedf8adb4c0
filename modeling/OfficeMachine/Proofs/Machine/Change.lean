/-
This file tells which changes of a machine its worker does not notice. Such a change may be made
before an instruction instead of after it.
-/

import OfficeMachine.Proofs.Machine.Effect

namespace OfficeMachine.Machine

/-- An instruction reworks the floor, the hand, the outbox, the position and the count of steps. -/
def rework (machine : Machine) (floor : Floor) (hand : Option Box) (shipped : List Box)
    (position steps : Nat) : Machine :=
  { machine with
    floor := floor, hand := hand, shipped := shipped, position := position, steps := steps }

/-- A change goes unnoticed if it keeps what an instruction reworks, and it does not matter whether
it comes before or after that. -/
structure GoesUnnoticed (change : Machine → Machine) : Prop where
  floor : ∀ machine, (change machine).floor = machine.floor
  hand : ∀ machine, (change machine).hand = machine.hand
  shipped : ∀ machine, (change machine).shipped = machine.shipped
  position : ∀ machine, (change machine).position = machine.position
  steps : ∀ machine, (change machine).steps = machine.steps
  rework : ∀ machine floor hand shipped position steps,
    change (machine.rework floor hand shipped position steps) =
      (change machine).rework floor hand shipped position steps

namespace GoesUnnoticed

variable {change : Machine → Machine} {machine : Machine} {instruction : Instruction}

theorem held (unnoticed : GoesUnnoticed change) : (change machine).held = machine.held := by
  rw [Machine.held, unnoticed.hand, Machine.held]

theorem heldNumber (unnoticed : GoesUnnoticed change) (opcode : Opcode) :
    (change machine).heldNumber opcode = machine.heldNumber opcode := by
  rw [Machine.heldNumber, unnoticed.held, Machine.heldNumber]

theorem effective (unnoticed : GoesUnnoticed change) :
    (change machine).effective instruction = machine.effective instruction := by
  rw [Machine.effective, unnoticed.floor, Machine.effective]

theorem readTile (unnoticed : GoesUnnoticed change) :
    (change machine).readTile instruction = machine.readTile instruction := by
  rw [Machine.readTile, unnoticed.effective, unnoticed.floor, Machine.readTile]

theorem continueAt (unnoticed : GoesUnnoticed change) (position : Nat) :
    (change machine).continueAt position = change (machine.continueAt position) := by
  have same := unnoticed.rework machine machine.floor machine.hand machine.shipped position
    (machine.steps + 1)
  refine Eq.trans ?_ same.symm
  unfold Machine.rework
  rw [← unnoticed.floor machine, ← unnoticed.hand machine, ← unnoticed.shipped machine,
    ← unnoticed.steps machine]
  rfl

theorem advance (unnoticed : GoesUnnoticed change) :
    (change machine).advance = change machine.advance := by
  rw [Machine.advance, unnoticed.position, unnoticed.continueAt, Machine.advance]

theorem goOn (unnoticed : GoesUnnoticed change) (target : Option Nat) :
    (change machine).goOn target = change (machine.goOn target) := by
  cases target with
  | none => exact unnoticed.advance
  | some position => exact unnoticed.continueAt position

/-- What the worker does at one place may be done before the change. -/
theorem atPlace (unnoticed : GoesUnnoticed change) (floor : Floor) (hand : Option Box)
    (shipped : List Box) :
    { change machine with floor := floor, hand := hand, shipped := shipped } =
      change { machine with floor := floor, hand := hand, shipped := shipped } := by
  refine Eq.trans ?_ (unnoticed.rework machine floor hand shipped machine.position
    machine.steps).symm
  unfold Machine.rework
  rw [← unnoticed.position machine, ← unnoticed.steps machine]

theorem setHand (unnoticed : GoesUnnoticed change) (hand : Option Box) :
    { change machine with hand := hand } = change { machine with hand := hand } := by
  refine Eq.trans ?_ (unnoticed.atPlace machine.floor hand machine.shipped)
  rw [← unnoticed.floor machine, ← unnoticed.shipped machine]

theorem setFloor (unnoticed : GoesUnnoticed change) (floor : Floor) :
    { change machine with floor := floor } = change { machine with floor := floor } := by
  refine Eq.trans ?_ (unnoticed.atPlace floor machine.hand machine.shipped)
  rw [← unnoticed.hand machine, ← unnoticed.shipped machine]

theorem ship (unnoticed : GoesUnnoticed change) (box : Box) :
    { change machine with hand := none, shipped := box :: (change machine).shipped } =
      change { machine with hand := none, shipped := box :: machine.shipped } := by
  refine Eq.trans ?_ (unnoticed.atPlace machine.floor none (box :: machine.shipped))
  rw [← unnoticed.floor machine, unnoticed.shipped machine]

theorem bump (unnoticed : GoesUnnoticed change) (floor : Floor) (hand : Option Box) :
    { change machine with floor := floor, hand := hand } =
      change { machine with floor := floor, hand := hand } := by
  refine Eq.trans ?_ (unnoticed.atPlace floor hand machine.shipped)
  rw [← unnoticed.shipped machine]

theorem combined (unnoticed : GoesUnnoticed change)
    (operation : Box → Box → Except ArithmeticError Number) :
    (change machine).combined instruction operation =
      change <$> machine.combined instruction operation := by
  simp only [Machine.combined, unnoticed.held, unnoticed.readTile, unnoticed.setHand, map_bind,
    map_pure]

theorem bumped (unnoticed : GoesUnnoticed change) (amount : Int) :
    (change machine).bumped instruction amount =
      change <$> machine.bumped instruction amount := by
  simp only [Machine.bumped, unnoticed.effective, unnoticed.floor, unnoticed.bump, map_bind,
    map_pure]

theorem map_advance (unnoticed : GoesUnnoticed change) {effect changed : Except StepError Machine}
    (same : changed = change <$> effect) :
    Machine.advance <$> changed = change <$> (Machine.advance <$> effect) := by
  rw [same]
  cases effect with
  | error error => rfl
  | ok next => exact congrArg Except.ok unnoticed.advance

/-- An instruction that does not take from the inbox may be obeyed before the change. -/
theorem effect (unnoticed : GoesUnnoticed change) (works : instruction.opcode ≠ .inbox) :
    (change machine).effect instruction = change <$> machine.effect instruction := by
  unfold Machine.effect
  cases opcode : instruction.opcode <;> simp only [map_bind, map_pure]
  case inbox => exact absurd opcode works
  case outbox => simp only [unnoticed.held, unnoticed.ship, unnoticed.advance]
  case copyFrom => simp only [unnoticed.readTile, unnoticed.setHand, unnoticed.advance]
  case copyTo =>
      simp only [unnoticed.held, unnoticed.effective, unnoticed.floor, unnoticed.setFloor,
        unnoticed.advance]
  case add => exact unnoticed.map_advance (unnoticed.combined _)
  case subtract => exact unnoticed.map_advance (unnoticed.combined _)
  case bumpUp => exact unnoticed.map_advance (unnoticed.bumped _)
  case bumpDown => exact unnoticed.map_advance (unnoticed.bumped _)
  case jump => exact congrArg Except.ok (unnoticed.goOn _)
  case jumpIfZero => simp only [unnoticed.heldNumber, unnoticed.goOn]
  case jumpIfNegative => simp only [unnoticed.heldNumber, unnoticed.goOn]

end GoesUnnoticed

end OfficeMachine.Machine
