/-
This file relates runs to single steps. A walk goes as far as steps succeed, and it tells whether it
came behind the program, to a step that fails or to the end of its patience.
-/

import OfficeMachine.Machine.Run
import OfficeMachine.Proofs.Machine.Frame

namespace OfficeMachine.Machine

/-- A machine steps to the next one if its current instruction succeeds. -/
def StepsTo (machine next : Machine) : Prop :=
  ∃ instruction, machine.current? = some instruction ∧
    (Deed.perform instruction).run machine = .ok () next

/-- A machine fails at its current instruction, whatever machine the failure leaves. -/
def FailsAt (machine : Machine) (instruction : Instruction) (error : StepError) : Prop :=
  machine.current? = some instruction ∧
    ∃ left, (Deed.perform instruction).run machine = .error error left

/-- A machine walks to another one in a number of successful steps. -/
inductive WalksTo : Nat → Machine → Machine → Prop
  | stay (machine : Machine) : WalksTo 0 machine machine
  | step {count : Nat} {machine next final : Machine} (first : machine.StepsTo next)
      (rest : WalksTo count next final) : WalksTo (count + 1) machine final

theorem WalksTo.trans {count further : Nat} {machine middle final : Machine}
    (first : WalksTo count machine middle) (second : WalksTo further middle final) :
    WalksTo (count + further) machine final := by
  induction first with
  | stay machine =>
      rw [Nat.zero_add]
      exact second
  | step first _ inductionHypothesis =>
      rw [Nat.add_right_comm]
      exact .step first (inductionHypothesis second)

/-- A walk of at least one step has a last one. -/
theorem WalksTo.exists_last {count : Nat} {machine final : Machine}
    (walks : WalksTo (count + 1) machine final) :
    ∃ before, WalksTo count machine before ∧ before.StepsTo final := by
  induction count generalizing machine with
  | zero =>
      cases walks with
      | step first rest =>
          cases rest
          exact ⟨machine, .stay machine, first⟩
  | succ count inductionHypothesis =>
      cases walks with
      | step first rest =>
          obtain ⟨before, walks, last⟩ := inductionHypothesis rest
          exact ⟨before, .step first walks, last⟩

/-- Nobody walks on behind the program. -/
theorem WalksTo.eq_of_ended {count : Nat} {machine final : Machine}
    (walks : WalksTo count machine final) (ended : machine.current? = none) : final = machine := by
  cases walks with
  | stay => rfl
  | step first _ =>
      obtain ⟨instruction, current, -⟩ := first
      rw [ended] at current
      cases current

theorem run_perform_eq_ok_iff {machine next : Machine} {instruction : Instruction} :
    (Deed.perform instruction).run machine = .ok () next ↔
      machine.effect instruction = .ok next := by
  rw [Deed.hasEffect_perform]
  cases machine.effect instruction <;> simp [settle]

/-- A step that fails leaves the machine as it was. -/
theorem run_perform_eq_error_iff {machine left : Machine} {instruction : Instruction}
    {error : StepError} :
    (Deed.perform instruction).run machine = .error error left ↔
      left = machine ∧ machine.effect instruction = .error error := by
  rw [Deed.hasEffect_perform]
  cases machine.effect instruction <;> simp [settle, eq_comm, and_comm]

theorem StepsTo.movesTo {machine next : Machine} (steps : machine.StepsTo next) :
    ∃ instruction, machine.current? = some instruction ∧ machine.MovesTo next instruction := by
  obtain ⟨instruction, current, performed⟩ := steps
  exact ⟨instruction, current, movesTo_of_effect (run_perform_eq_ok_iff.mp performed)⟩

/-- A machine that halted stands behind its program. -/
theorem current?_halted (machine : Machine) : machine.halted.current? = none :=
  Array.getElem?_eq_none_iff.mpr (Nat.le_refl machine.program.instructions.size)

/-- A current instruction is one of the program. -/
theorem mem_of_current {machine : Machine} {instruction : Instruction}
    (current : machine.current? = some instruction) :
    instruction ∈ machine.program.instructions.toList :=
  Array.mem_toList_iff.mpr (Array.mem_of_getElem? current)

/-- Only an empty inbox makes a step stop the machine. -/
theorem StepsTo.unstopped_or_halted {machine next : Machine} (steps : machine.StepsTo next)
    (unstopped : machine.stop = none) : next.stop = none ∨ next = machine.halted := by
  obtain ⟨instruction, -, moves⟩ := steps.movesTo
  rcases moves.place with ⟨same, -⟩ | ⟨-, -, halted⟩
  · exact Or.inl (same.trans unstopped)
  · exact Or.inr halted

section WalksTo

variable {machine left : Machine} {count : Nat}

/-- Each step counts. -/
theorem WalksTo.steps_eq (walks : WalksTo count machine left) :
    left.steps = machine.steps + count := by
  induction walks with
  | stay machine => rfl
  | step first _ inductionHypothesis =>
      obtain ⟨instruction, -, moves⟩ := first.movesTo
      rw [inductionHypothesis, moves.steps]
      omega

/-- No box leaves the outbox. -/
theorem WalksTo.outbox_prefix (walks : WalksTo count machine left) :
    machine.outbox <+: left.outbox := by
  induction walks with
  | stay machine => exact List.prefix_rfl
  | step first _ inductionHypothesis =>
      obtain ⟨instruction, -, moves⟩ := first.movesTo
      exact (List.reverse_prefix.mpr moves.shipped).trans inductionHypothesis

/-- A machine with a current instruction has not stopped on its way to it. -/
theorem WalksTo.unstopped (walks : WalksTo count machine left) (unstopped : machine.stop = none)
    {instruction : Instruction} (current : left.current? = some instruction) :
    left.stop = none := by
  induction walks with
  | stay machine => exact unstopped
  | step first rest inductionHypothesis =>
      rcases first.unstopped_or_halted unstopped with running | halted
      · exact inductionHypothesis running current
      · -- Nothing follows a halt, so the walk ends behind the program.
        rw [halted] at rest
        rw [rest.eq_of_ended (current?_halted _), current?_halted] at current
        cases current

end WalksTo

theorem failsAt_iff {machine : Machine} {instruction : Instruction} {error : StepError} :
    machine.FailsAt instruction error ↔
      machine.current? = some instruction ∧ machine.effect instruction = .error error := by
  simp only [FailsAt, run_perform_eq_error_iff, exists_eq_left]

/-- A walk takes a first step that succeeds. -/
theorem walk_of_stepsTo {machine next : Machine} (steps : machine.StepsTo next) (patience : Nat) :
    machine.walk (patience + 1) = next.walk patience := by
  obtain ⟨instruction, current, performed⟩ := steps
  rw [walk, current]
  simp only [performed]

theorem walk_of_failsAt {machine : Machine} {instruction : Instruction} {error : StepError}
    (fails : machine.FailsAt instruction error) (patience : Nat) :
    machine.walk (patience + 1) = .failed machine instruction error := by
  obtain ⟨current, left, performed⟩ := fails
  rw [walk, current]
  simp only [performed]
  rw [(run_perform_eq_error_iff.mp performed).1]

theorem walk_of_ended {machine : Machine} (ended : machine.current? = none) (patience : Nat) :
    machine.walk patience = .ended machine := by
  cases patience <;> rw [walk, ended]

theorem walk_zero_of_current {machine : Machine} {instruction : Instruction}
    (current : machine.current? = some instruction) : machine.walk 0 = .going machine := by
  rw [walk, current]

/-- A run goes through the steps that succeed. -/
theorem walk_of_walksTo {count : Nat} {machine final : Machine}
    (walks : WalksTo count machine final) (patience : Nat) :
    machine.walk (count + patience) = final.walk patience := by
  induction walks with
  | stay machine => rw [Nat.zero_add]
  | step first _ inductionHypothesis =>
      rw [Nat.add_right_comm, walk_of_stepsTo first, inductionHypothesis]

/-- A walk without patience for one more step is going on where its steps led. -/
theorem walk_of_going {count : Nat} {machine final : Machine} {instruction : Instruction}
    (walks : WalksTo count machine final) (current : final.current? = some instruction) :
    machine.walk count = .going final := by
  have arrived := walk_of_walksTo walks 0
  rwa [Nat.add_zero, walk_zero_of_current current] at arrived

/-- A machine ends, fails or steps on. -/
theorem ends_or_fails_or_steps (machine : Machine) :
    machine.current? = none ∨ (∃ instruction error, machine.FailsAt instruction error) ∨
      ∃ next, machine.StepsTo next := by
  cases current : machine.current? with
  | none => exact Or.inl rfl
  | some instruction =>
      right
      cases performed : (Deed.perform instruction).run machine with
      | error error left => exact Or.inl ⟨instruction, error, current, left, performed⟩
      | ok _ next => exact Or.inr ⟨next, instruction, current, performed⟩

/-- A walk tells how far its steps succeeded and why it went no further. -/
inductive Tells (patience : Nat) (machine : Machine) : Walk → Prop
  | ended {count : Nat} {left : Machine} (within : count ≤ patience)
      (walks : WalksTo count machine left) (behind : left.current? = none) :
      Tells patience machine (.ended left)
  | failed {count : Nat} {left : Machine} {instruction : Instruction} {error : StepError}
      (within : count < patience) (walks : WalksTo count machine left)
      (fails : left.FailsAt instruction error) :
      Tells patience machine (.failed left instruction error)
  | going {left : Machine} {instruction : Instruction} (walks : WalksTo patience machine left)
      (current : left.current? = some instruction) : Tells patience machine (.going left)

theorem Tells.step {patience : Nat} {machine next : Machine} {walk : Walk}
    (first : machine.StepsTo next) (tells : Tells patience next walk) :
    Tells (patience + 1) machine walk := by
  cases tells with
  | ended within walks behind => exact .ended (by omega) (.step first walks) behind
  | failed within walks fails => exact .failed (by omega) (.step first walks) fails
  | going walks current => exact .going (.step first walks) current

/-- Every walk tells the truth. -/
theorem tells_walk (machine : Machine) (patience : Nat) :
    Tells patience machine (machine.walk patience) := by
  induction patience generalizing machine with
  | zero =>
      cases current : machine.current? with
      | none =>
          rw [walk_of_ended current]
          exact .ended (Nat.le_refl 0) (.stay machine) current
      | some instruction =>
          rw [walk_zero_of_current current]
          exact .going (.stay machine) current
  | succ patience inductionHypothesis =>
      obtain ended | ⟨instruction, error, fails⟩ | ⟨next, steps⟩ := machine.ends_or_fails_or_steps
      · rw [walk_of_ended ended]
        exact .ended (by omega) (.stay machine) ended
      · rw [walk_of_failsAt fails]
        exact .failed (by omega) (.stay machine) fails
      · rw [walk_of_stepsTo steps]
        exact .step steps (inductionHypothesis next)

theorem exists_tells (machine : Machine) (patience : Nat) :
    ∃ walk, machine.walk patience = walk ∧ Tells patience machine walk :=
  ⟨_, rfl, tells_walk machine patience⟩

end OfficeMachine.Machine
