/-
This file compares two machines step by step. Related machines do the same until the first one comes
to an end that parts them, and their runs end alike.
-/

import OfficeMachine.Proofs.Machine.Resumption

namespace OfficeMachine.Machine

/-- Two machines look alike if their user cannot tell them apart before the next step. -/
structure LooksLike (machine other : Machine) : Prop where
  current : other.current? = machine.current?
  position : other.position = machine.position
  steps : other.steps = machine.steps
  stop : other.stop = machine.stop
  shipped : other.shipped = machine.shipped

namespace LooksLike

variable {machine other : Machine}

theorem outbox (looks : machine.LooksLike other) : other.outbox = machine.outbox :=
  congrArg List.reverse looks.shipped

theorem faultAt (looks : machine.LooksLike other) (instruction : Instruction) (cause : Cause) :
    other.faultAt instruction cause = machine.faultAt instruction cause := by
  simp only [Machine.faultAt, looks.position, looks.outbox]

end LooksLike

/-- Each step of the first machine leads the second one to a related machine, and each failure of the
first one is a failure of the second. Only reports of the first one that part them are excepted. -/
structure Simulates (related : Machine → Machine → Prop) (parts : RunReport → Prop) : Prop where
  looks : ∀ {machine other}, related machine other → machine.LooksLike other
  finish : ∀ {machine other}, related machine other → related machine.finish other.finish
  stepsTo : ∀ {machine other next}, related machine other → machine.StepsTo next →
    (parts ⟨.returned next.outbox, next.finish⟩ ∧ next.current? = none) ∨
      ∃ follower, other.StepsTo follower ∧ related next follower
  failsAt : ∀ {machine other instruction error}, related machine other →
    machine.FailsAt instruction error →
    (∃ cause, error = .fault cause ∧
      parts ⟨.faulted (machine.faultAt instruction cause), machine⟩) ∨
      other.FailsAt instruction error

namespace Simulates

variable {related : Machine → Machine → Prop} {parts : RunReport → Prop}
variable {machine other left : Machine}

/-- A walk leads related machines to related machines. -/
theorem walksTo (simulates : Simulates related parts) (alike : related machine other) {count : Nat}
    (walks : WalksTo count machine left) :
    (parts ⟨.returned left.outbox, left.finish⟩ ∧ left.current? = none) ∨
      ∃ follower, WalksTo count other follower ∧ related left follower := by
  induction walks generalizing other with
  | stay machine => exact Or.inr ⟨other, .stay other, alike⟩
  | step first rest inductionHypothesis =>
      rcases simulates.stepsTo alike first with ⟨parted, ended⟩ | ⟨follower, steps, stillAlike⟩
      · rw [rest.eq_of_ended ended]
        exact Or.inl ⟨parted, ended⟩
      · rcases inductionHypothesis stillAlike with parted | ⟨last, walks, lastAlike⟩
        · exact Or.inl parted
        · exact Or.inr ⟨last, .step steps walks, lastAlike⟩

/-- A walk that goes on past a machine has not parted from the other one there. -/
theorem walksTo_of_current (simulates : Simulates related parts) (alike : related machine other)
    {count : Nat} (walks : WalksTo count machine left) {instruction : Instruction}
    (current : left.current? = some instruction) :
    ∃ follower, WalksTo count other follower ∧ related left follower := by
  rcases simulates.walksTo alike walks with ⟨-, ended⟩ | follows
  · rw [ended] at current
    cases current
  · exact follows

/-- The runs of related machines have the same outcome unless the machines part. -/
theorem run (simulates : Simulates related parts) (alike : related machine other)
    (unstopped : machine.stop = none) (limit : Option Int) (patience : Nat) :
    parts (machine.run limit patience) ∨
      ∃ follower, other.run limit patience = ⟨(machine.run limit patience).outcome, follower⟩ ∧
        related (machine.run limit patience).machine follower := by
  have looks := simulates.looks alike
  have allowed : other.allowance limit patience = machine.allowance limit patience := by
    unfold allowance
    rw [looks.steps]
  simp only [run_eq_iff (looks.stop.trans unstopped)]
  obtain ⟨report, ran, reports⟩ := exists_reports unstopped limit patience
  rw [ran]
  cases reports with
  | returned within walks behind =>
      rcases simulates.walksTo alike walks with ⟨parted, -⟩ | ⟨follower, followed, stillAlike⟩
      · exact Or.inl parted
      · have sameEnd := simulates.looks stillAlike
        refine Or.inr ⟨follower.finish, ?_, simulates.finish stillAlike⟩
        rw [← sameEnd.outbox]
        exact .returned (allowed ▸ within) followed (sameEnd.current.trans behind)
  | faulted within walks fails =>
      obtain ⟨follower, followed, stillAlike⟩ := simulates.walksTo_of_current alike walks fails.1
      rcases simulates.failsAt stillAlike fails with ⟨cause, same, parted⟩ | follows
      · cases same
        exact Or.inl parted
      · refine Or.inr ⟨follower, ?_, stillAlike⟩
        rw [← (simulates.looks stillAlike).faultAt]
        exact .faulted (allowed ▸ within) followed follows
  | noTile within walks fails =>
      obtain ⟨follower, followed, stillAlike⟩ := simulates.walksTo_of_current alike walks fails.1
      rcases simulates.failsAt stillAlike fails with ⟨cause, same, -⟩ | follows
      · cases same
      · exact Or.inr ⟨follower, .noTile (allowed ▸ within) followed follows, stillAlike⟩
  | limitReached walks current writable =>
      obtain ⟨follower, followed, stillAlike⟩ := simulates.walksTo_of_current alike walks current
      have sameEnd := simulates.looks stillAlike
      refine Or.inr ⟨follower, ?_, stillAlike⟩
      rw [← sameEnd.outbox, ← sameEnd.position]
      exact .limitReached (looks.steps ▸ followed) (sameEnd.current.trans current) writable
  | unwritableLimit walks current overlong =>
      obtain ⟨follower, followed, stillAlike⟩ := simulates.walksTo_of_current alike walks current
      have sameEnd := (simulates.looks stillAlike).current.trans current
      exact Or.inr ⟨follower, .unwritableLimit (looks.steps ▸ followed) sameEnd overlong, stillAlike⟩
  | unfinished walks current =>
      obtain ⟨follower, followed, stillAlike⟩ := simulates.walksTo_of_current alike walks current
      have sameEnd := simulates.looks stillAlike
      exact Or.inr ⟨follower, .unfinished followed (sameEnd.current.trans current), stillAlike⟩

end Simulates

end OfficeMachine.Machine
