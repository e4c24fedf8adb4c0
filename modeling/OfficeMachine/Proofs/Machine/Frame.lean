/-
This file shows what a successful step leaves alone. The program, the bound of the floor and the
boxes in the outbox stay, the step counts, and the machine goes on at the next instruction, at its
target or, if the inbox is empty, at the end.
-/

import OfficeMachine.Proofs.Floor
import OfficeMachine.Proofs.Machine.Effect

namespace OfficeMachine.Machine

/-- A machine that asks for a box in vain halts behind its program. -/
def halted (machine : Machine) : Machine :=
  { machine with stop := some .halt }.continueAt machine.program.size

/-- A machine stays in place while only its hand, its tiles and its belts change. -/
structure StaysInPlace (machine changed : Machine) : Prop where
  program : changed.program = machine.program
  bound : changed.floor.bound = machine.floor.bound
  steps : changed.steps = machine.steps
  position : changed.position = machine.position
  stop : changed.stop = machine.stop
  shipped : machine.shipped <:+ changed.shipped

/-- A machine moves to the next one by an instruction. -/
structure MovesTo (machine next : Machine) (instruction : Instruction) : Prop where
  program : next.program = machine.program
  bound : next.floor.bound = machine.floor.bound
  steps : next.steps = machine.steps + 1
  shipped : machine.shipped <:+ next.shipped
  place : next.stop = machine.stop ∧
      (next.position = machine.position + 1 ∨ instruction.target = some next.position) ∨
    instruction.opcode = .inbox ∧ machine.inbox = [] ∧ next = machine.halted

variable {machine changed next : Machine} {instruction : Instruction}

theorem StaysInPlace.goOn (stays : machine.StaysInPlace changed) {target : Option Nat}
    (goal : target = none ∨ target = instruction.target) :
    machine.MovesTo (changed.goOn target) instruction := by
  obtain ⟨program, bound, steps, position, stop, shipped⟩ := stays
  cases target with
  | none =>
      refine ⟨program, bound, congrArg (· + 1) steps, shipped, Or.inl ⟨stop, Or.inl ?_⟩⟩
      exact congrArg (· + 1) position
  | some target =>
      refine ⟨program, bound, congrArg (· + 1) steps, shipped, Or.inl ⟨stop, Or.inr ?_⟩⟩
      rcases goal with none | same
      · cases none
      · exact same.symm

theorem StaysInPlace.advance (stays : machine.StaysInPlace changed) :
    machine.MovesTo changed.advance instruction :=
  stays.goOn (Or.inl (Eq.refl none))

theorem staysInPlace_of_combined {operation : Box → Box → Except ArithmeticError Number}
    (success : machine.combined instruction operation = .ok changed) :
    machine.StaysInPlace changed := by
  obtain ⟨left, -, rest⟩ := bind_eq_ok_iff.mp success
  obtain ⟨right, -, rest⟩ := bind_eq_ok_iff.mp rest
  obtain ⟨result, -, same⟩ := bind_eq_ok_iff.mp rest
  rw [← Except.ok.inj same]
  exact ⟨rfl, rfl, rfl, rfl, rfl, List.suffix_rfl⟩

theorem staysInPlace_of_bumped {amount : Int}
    (success : machine.bumped instruction amount = .ok changed) :
    machine.StaysInPlace changed := by
  obtain ⟨address, -, rest⟩ := bind_eq_ok_iff.mp success
  obtain ⟨box, -, rest⟩ := bind_eq_ok_iff.mp rest
  obtain ⟨result, -, rest⟩ := bind_eq_ok_iff.mp rest
  obtain ⟨floor, written, same⟩ := bind_eq_ok_iff.mp rest
  rw [orFault_eq_ok_iff] at written
  rw [← Except.ok.inj same]
  exact ⟨rfl, Floor.bound_of_write written, rfl, rfl, rfl, List.suffix_rfl⟩

theorem movesTo_of_map_advance {effect : Except StepError Machine}
    (stays : ∀ changed, effect = .ok changed → machine.StaysInPlace changed)
    (success : Machine.advance <$> effect = .ok next) : machine.MovesTo next instruction := by
  obtain ⟨changed, given, same⟩ := map_eq_ok_iff.mp success
  rw [← same]
  exact (stays changed given).advance

theorem ite_eq_none_or_eq (condition : Prop) [Decidable condition] (target : Option Nat) :
    (if condition then target else none) = none ∨
      (if condition then target else none) = target := by
  by_cases holds : condition
  · rw [if_pos holds]
    exact Or.inr rfl
  · rw [if_neg holds]
    exact Or.inl rfl

/-- An instruction that succeeds moves the machine. -/
theorem movesTo_of_effect (success : machine.effect instruction = .ok next) :
    machine.MovesTo next instruction := by
  have still : machine.StaysInPlace machine := ⟨rfl, rfl, rfl, rfl, rfl, List.suffix_rfl⟩
  unfold effect at success
  cases opcode : instruction.opcode <;> simp only [opcode] at success
  case inbox =>
      rw [← Except.ok.inj success]
      unfold tookFromInbox
      split
      case h_1 => exact StaysInPlace.advance ⟨rfl, rfl, rfl, rfl, rfl, List.suffix_rfl⟩
      case h_2 empty => exact ⟨rfl, rfl, rfl, List.suffix_rfl, Or.inr ⟨opcode, empty, rfl⟩⟩
  case outbox =>
      obtain ⟨box, -, same⟩ := bind_eq_ok_iff.mp success
      rw [← Except.ok.inj same]
      exact StaysInPlace.advance ⟨rfl, rfl, rfl, rfl, rfl, List.suffix_cons box machine.shipped⟩
  case copyFrom =>
      obtain ⟨box, -, same⟩ := bind_eq_ok_iff.mp success
      rw [← Except.ok.inj same]
      exact StaysInPlace.advance ⟨rfl, rfl, rfl, rfl, rfl, List.suffix_rfl⟩
  case copyTo =>
      obtain ⟨box, -, rest⟩ := bind_eq_ok_iff.mp success
      obtain ⟨address, -, rest⟩ := bind_eq_ok_iff.mp rest
      obtain ⟨floor, written, same⟩ := bind_eq_ok_iff.mp rest
      rw [orFault_eq_ok_iff] at written
      rw [← Except.ok.inj same]
      exact StaysInPlace.advance
        ⟨rfl, Floor.bound_of_write written, rfl, rfl, rfl, List.suffix_rfl⟩
  case add => exact movesTo_of_map_advance (fun _ => staysInPlace_of_combined) success
  case subtract => exact movesTo_of_map_advance (fun _ => staysInPlace_of_combined) success
  case bumpUp => exact movesTo_of_map_advance (fun _ => staysInPlace_of_bumped) success
  case bumpDown => exact movesTo_of_map_advance (fun _ => staysInPlace_of_bumped) success
  case jump =>
      rw [← Except.ok.inj success]
      exact still.goOn (Or.inr rfl)
  case jumpIfZero =>
      obtain ⟨number, -, same⟩ := bind_eq_ok_iff.mp success
      rw [← Except.ok.inj same]
      exact still.goOn (ite_eq_none_or_eq _ _)
  case jumpIfNegative =>
      obtain ⟨number, -, same⟩ := bind_eq_ok_iff.mp success
      rw [← Except.ok.inj same]
      exact still.goOn (ite_eq_none_or_eq _ _)

end OfficeMachine.Machine
