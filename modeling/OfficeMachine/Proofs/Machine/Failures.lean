/-
This file shows how a step can fail. An instruction that suits its program fails only with a fault,
and all numbers in the detail of the fault can be written.
-/

import OfficeMachine.Proofs.Box.Arithmetic
import OfficeMachine.Proofs.Floor
import OfficeMachine.Proofs.Machine.Effect
import OfficeMachine.Proofs.Program.WellFormed

namespace OfficeMachine

/-- A bound can be written if there is none or its number can be. -/
def boundIsWritable (bound : Option Nat) : Prop :=
  ∀ last, bound = some last → Numeral.isWritable (last : Int) = true

/-- All addresses and bounds in the message of the error can be written. -/
def TileError.IsWritable : TileError → Prop
  | .outside address bound => Numeral.isWritable address = true ∧ boundIsWritable bound
  | .empty address => Numeral.isWritable address = true
  | .emptyPointer address => Numeral.isWritable address = true
  | .letterPointer address _ => Numeral.isWritable address = true

/-- The result in the message of the error can be written. -/
def ArithmeticError.IsWritable : ArithmeticError → Prop
  | .cannotAdd _ _ | .cannotSubtract _ _ | .cannotBump _ => True
  | .overflow result => Numeral.isWritable result = true
  | .unwritable => False

def Cause.IsWritable : Cause → Prop
  | .emptyHand => True
  | .letterInHand _ _ => True
  | .tile error => error.IsWritable
  | .arithmetic error => error.IsWritable

/-- An error is a proper fault if its detail can be written. -/
def StepError.IsFault (error : StepError) : Prop :=
  ∃ cause, error = .fault cause ∧ cause.IsWritable

namespace Floor

variable {floor : Floor}

theorem place_fails (writable : boundIsWritable floor.bound) {address : Int}
    (short : Numeral.isWritable address = true) :
    FailsOnlyWith TileError.IsWritable (floor.place address) := by
  unfold place
  split
  · exact failsOnlyWith_ok _
  · exact failsOnlyWith_error ⟨short, writable⟩

theorem get_fails (writable : boundIsWritable floor.bound) {address : Int}
    (short : Numeral.isWritable address = true) :
    FailsOnlyWith TileError.IsWritable (floor.get address) :=
  (place_fails writable short).map _

theorem read_fails (writable : boundIsWritable floor.bound) {address : Int}
    (short : Numeral.isWritable address = true) :
    FailsOnlyWith TileError.IsWritable (floor.read address) := by
  apply (get_fails writable short).bind
  intro content _
  cases content with
  | none => exact failsOnlyWith_error short
  | some box => exact failsOnlyWith_ok _

theorem resolve_fails (writable : boundIsWritable floor.bound) {address : Address}
    (short : Numeral.isWritable address.index = true) :
    FailsOnlyWith TileError.IsWritable (floor.resolve address) := by
  unfold resolve
  split
  · apply (get_fails writable short).bind
    intro content _
    match content with
    | none => exact failsOnlyWith_error short
    | some (.letter letter) => exact failsOnlyWith_error short
    | some (.number number) => exact (place_fails writable number.isWritable_value).map _
  · exact (place_fails writable short).map _

theorem isWritable_of_resolve {address : Address}
    (short : Numeral.isWritable address.index = true) {tile : Nat}
    (found : floor.resolve address = .ok tile) : Numeral.isWritable (tile : Int) = true := by
  obtain ⟨-, same | ⟨number, same⟩⟩ := resolve_eq_ok found
  · rw [same]
    exact short
  · rw [same]
    exact number.isWritable_value

end Floor

theorem Number.ofResult_fails {result : Int} (short : Numeral.isWritable result = true) :
    FailsOnlyWith ArithmeticError.IsWritable (Number.ofResult result) := by
  unfold Number.ofResult
  split
  · exact failsOnlyWith_ok _
  · rw [if_pos short]
    exact failsOnlyWith_error short

namespace Box

theorem add_fails (left right : Box) :
    FailsOnlyWith ArithmeticError.IsWritable (left.add right) := by
  cases left with
  | letter letter => exact failsOnlyWith_error trivial
  | number first =>
      cases right with
      | letter letter => exact failsOnlyWith_error trivial
      | number second => exact Number.ofResult_fails (first.isWritable_sum second)

theorem subtract_fails (left right : Box) :
    FailsOnlyWith ArithmeticError.IsWritable (left.subtract right) := by
  cases left with
  | letter first =>
      cases right with
      | letter second => exact failsOnlyWith_ok _
      | number second => exact failsOnlyWith_error trivial
  | number first =>
      cases right with
      | letter second => exact failsOnlyWith_error trivial
      | number second => exact Number.ofResult_fails (first.isWritable_difference second)

theorem bump_fails (box : Box) {amount : Int} (least : -1 ≤ amount) (greatest : amount ≤ 1) :
    FailsOnlyWith ArithmeticError.IsWritable (box.bump amount) := by
  cases box with
  | letter letter => exact failsOnlyWith_error trivial
  | number number =>
      have := number.atLeast; have := number.atMost
      exact Number.ofResult_fails (Numeral.isWritable_of_bounds (by omega) (by omega))

end Box

namespace Machine

/-- A failed check becomes a fault with its cause. -/
theorem orFault_fails {Failed Found : Type} {cause : Failed → Cause}
    {result : Except Failed Found}
    (fails : FailsOnlyWith (fun error => (cause error).IsWritable) result) :
    FailsOnlyWith StepError.IsFault (orFault cause result) := by
  cases result with
  | ok found => exact failsOnlyWith_ok _
  | error error => exact failsOnlyWith_error ⟨cause error, rfl, fails error rfl⟩

variable {machine : Machine} {instruction : Instruction} {size : Nat}

theorem held_fails : FailsOnlyWith StepError.IsFault machine.held := by
  unfold held
  split
  · exact failsOnlyWith_ok _
  · exact failsOnlyWith_error ⟨.emptyHand, rfl, trivial⟩

theorem heldNumber_fails (opcode : Opcode) :
    FailsOnlyWith StepError.IsFault (machine.heldNumber opcode) := by
  apply held_fails.bind
  intro box _
  cases box with
  | number number => exact failsOnlyWith_ok _
  | letter letter => exact failsOnlyWith_error ⟨.letterInHand opcode letter, rfl, trivial⟩

/-- An instruction that takes a tile finds it through an address that can be written. -/
theorem effective_of_suits (suits : instruction.Suits size)
    (kind : instruction.opcode.operand = .tile) :
    ∃ address, Numeral.isWritable address.index = true ∧
      machine.effective instruction = orFault .tile (machine.floor.resolve address) := by
  obtain ⟨address, given, -, -, short⟩ := suits.of_tile kind
  refine ⟨address, short, ?_⟩
  rw [effective, given]

theorem effective_fails (suits : instruction.Suits size)
    (kind : instruction.opcode.operand = .tile) (writable : boundIsWritable machine.floor.bound) :
    FailsOnlyWith StepError.IsFault (machine.effective instruction) := by
  obtain ⟨address, short, same⟩ := effective_of_suits suits kind
  rw [same]
  exact orFault_fails (Floor.resolve_fails writable short)

/-- The tile that an instruction works on can be written down and written to. -/
theorem effective_eq_ok (suits : instruction.Suits size)
    (kind : instruction.opcode.operand = .tile) {tile : Nat}
    (found : machine.effective instruction = .ok tile) :
    Numeral.isWritable (tile : Int) = true ∧
      ∀ box, ∃ floor, machine.floor.write tile box = .ok floor := by
  obtain ⟨address, short, same⟩ := effective_of_suits suits kind
  rw [same, orFault_eq_ok_iff] at found
  exact ⟨Floor.isWritable_of_resolve short found, fun box => ⟨_, Floor.write_of_resolve found box⟩⟩

theorem readTile_fails (suits : instruction.Suits size)
    (kind : instruction.opcode.operand = .tile) (writable : boundIsWritable machine.floor.bound) :
    FailsOnlyWith StepError.IsFault (machine.readTile instruction) := by
  apply (effective_fails suits kind writable).bind
  intro tile found
  exact orFault_fails (Floor.read_fails writable (effective_eq_ok suits kind found).1)

/-- A write after the address was resolved does not fail. -/
theorem write_fails (suits : instruction.Suits size)
    (kind : instruction.opcode.operand = .tile) {tile : Nat}
    (found : machine.effective instruction = .ok tile) (box : Box) :
    FailsOnlyWith StepError.IsFault (orFault .tile (machine.floor.write tile box)) := by
  obtain ⟨floor, written⟩ := (effective_eq_ok suits kind found).2 box
  rw [written]
  exact failsOnlyWith_ok _

theorem combined_fails (suits : instruction.Suits size)
    (kind : instruction.opcode.operand = .tile) (writable : boundIsWritable machine.floor.bound)
    {operation : Box → Box → Except ArithmeticError Number}
    (fails : ∀ left right, FailsOnlyWith ArithmeticError.IsWritable (operation left right)) :
    FailsOnlyWith StepError.IsFault (machine.combined instruction operation) := by
  apply held_fails.bind
  intro left _
  apply (readTile_fails suits kind writable).bind
  intro right _
  apply (orFault_fails (fails left right)).bind
  intro result _
  exact failsOnlyWith_ok _

theorem bumped_fails (suits : instruction.Suits size)
    (kind : instruction.opcode.operand = .tile) (writable : boundIsWritable machine.floor.bound)
    {amount : Int} (least : -1 ≤ amount) (greatest : amount ≤ 1) :
    FailsOnlyWith StepError.IsFault (machine.bumped instruction amount) := by
  apply (effective_fails suits kind writable).bind
  intro tile found
  apply (orFault_fails
    (Floor.read_fails writable (effective_eq_ok suits kind found).1)).bind
  intro box _
  apply (orFault_fails (box.bump_fails least greatest)).bind
  intro result _
  apply (write_fails suits kind found _).bind
  intro floor _
  exact failsOnlyWith_ok _

/-- An instruction that suits its program has its effect, or it fails with a proper fault. -/
theorem effect_fails (suits : instruction.Suits size)
    (writable : boundIsWritable machine.floor.bound) :
    FailsOnlyWith StepError.IsFault (machine.effect instruction) := by
  unfold effect
  cases opcode : instruction.opcode <;> simp only
  case inbox => exact failsOnlyWith_ok _
  case outbox =>
      apply held_fails.bind
      intro box _
      exact failsOnlyWith_ok _
  case copyFrom =>
      apply (readTile_fails suits (by rw [opcode]; rfl) writable).bind
      intro box _
      exact failsOnlyWith_ok _
  case copyTo =>
      apply held_fails.bind
      intro box _
      apply (effective_fails suits (by rw [opcode]; rfl) writable).bind
      intro tile found
      apply (write_fails suits (by rw [opcode]; rfl) found box).bind
      intro floor _
      exact failsOnlyWith_ok _
  case add => exact (combined_fails suits (by rw [opcode]; rfl) writable Box.add_fails).map _
  case subtract =>
      exact (combined_fails suits (by rw [opcode]; rfl) writable Box.subtract_fails).map _
  case bumpUp =>
      exact (bumped_fails suits (by rw [opcode]; rfl) writable (by decide) (by decide)).map _
  case bumpDown =>
      exact (bumped_fails suits (by rw [opcode]; rfl) writable (by decide) (by decide)).map _
  case jump => exact failsOnlyWith_ok _
  case jumpIfZero =>
      apply (heldNumber_fails .jumpIfZero).bind
      intro number _
      exact failsOnlyWith_ok _
  case jumpIfNegative =>
      apply (heldNumber_fails .jumpIfNegative).bind
      intro number _
      exact failsOnlyWith_ok _

end Machine

end OfficeMachine
