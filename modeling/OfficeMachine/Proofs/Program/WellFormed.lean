/-
This file says which programs are well-formed. Each instruction has the operand that its opcode
takes and no other one, addresses can be written and targets lie in the program or at its end.
-/

import OfficeMachine.Program
import OfficeMachine.Numeral.Digits

namespace OfficeMachine

/-- An instruction suits a program of the given size if it has exactly the operand that its opcode
takes. -/
def Instruction.Suits (size : Nat) (instruction : Instruction) : Prop :=
  match instruction.opcode.operand, instruction.address, instruction.target with
  | .nothing, none, none => True
  | .tile, some address, none =>
      0 ≤ address.index ∧ Numeral.isWritable address.index = true
  | .label, none, some target => target ≤ size
  | _, _, _ => False

instance (size : Nat) (instruction : Instruction) : Decidable (instruction.Suits size) :=
  match kind : instruction.opcode.operand, tile : instruction.address,
      goal : instruction.target with
  | .nothing, none, none => .isTrue (by simp [Instruction.Suits, kind, tile, goal])
  | .tile, some address, none =>
      decidable_of_iff (0 ≤ address.index ∧ Numeral.isWritable address.index = true)
        (by simp [Instruction.Suits, kind, tile, goal])
  | .label, none, some target =>
      decidable_of_iff (target ≤ size) (by simp [Instruction.Suits, kind, tile, goal])
  | .nothing, some _, _ | .nothing, none, some _ | .tile, none, _ | .tile, some _, some _
  | .label, some _, _ | .label, none, none =>
      .isFalse (by simp [Instruction.Suits, kind, tile, goal])

/-- All instructions of a well-formed program suit it. -/
def Program.WellFormed (program : Program) : Prop :=
  ∀ instruction ∈ program.instructions.toList, instruction.Suits program.size

instance (program : Program) : Decidable program.WellFormed :=
  inferInstanceAs (Decidable (∀ instruction ∈ program.instructions.toList, _))

namespace Instruction

variable {size : Nat} {instruction : Instruction}

theorem Suits.of_nothing (suits : instruction.Suits size)
    (kind : instruction.opcode.operand = .nothing) :
    instruction.address = none ∧ instruction.target = none := by
  unfold Suits at suits
  rw [kind] at suits
  split at suits <;> simp_all

theorem Suits.of_tile (suits : instruction.Suits size)
    (kind : instruction.opcode.operand = .tile) :
    ∃ address, instruction.address = some address ∧ instruction.target = none ∧
      0 ≤ address.index ∧ Numeral.isWritable address.index = true := by
  unfold Suits at suits
  rw [kind] at suits
  split at suits <;> simp_all

theorem Suits.of_label (suits : instruction.Suits size)
    (kind : instruction.opcode.operand = .label) :
    instruction.address = none ∧ ∃ target, instruction.target = some target ∧ target ≤ size := by
  unfold Suits at suits
  rw [kind] at suits
  split at suits <;> simp_all

theorem Suits.target_le (suits : instruction.Suits size) {target : Nat}
    (jumps : instruction.target = some target) : target ≤ size := by
  unfold Suits at suits
  split at suits <;> simp_all

end Instruction

end OfficeMachine
