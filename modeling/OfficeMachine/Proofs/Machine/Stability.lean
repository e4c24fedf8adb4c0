/-
This file shows that faults are atomic and stable. A fault leaves the machine as the last step that
succeeded made it, and neither runs nor feeds lead out of it.
-/

import OfficeMachine.Proofs.Machine.Change
import OfficeMachine.Proofs.Machine.Session

namespace OfficeMachine.Machine

variable {machine : Machine} {instruction : Instruction}

theorem feed_nil (machine : Machine) : machine.feed [] = machine := by
  unfold feed
  rw [List.append_nil]

theorem feed_feed (machine : Machine) (first second : List Box) :
    (machine.feed first).feed second = machine.feed (first ++ second) := by
  unfold feed
  rw [List.append_assoc]

/-- The worker does not notice more boxes at the end of the inbox. -/
theorem goesUnnoticed_feed (boxes : List Box) :
    GoesUnnoticed fun machine => machine.feed boxes where
  floor := fun _ => rfl
  hand := fun _ => rfl
  shipped := fun _ => rfl
  position := fun _ => rfl
  steps := fun _ => rfl
  rework := fun _ _ _ _ _ _ => rfl

/-- Unless it takes from an empty inbox, a machine may be fed before its step instead of after it. -/
theorem effect_feed (served : instruction.opcode = .inbox → machine.inbox ≠ [])
    (boxes : List Box) :
    (machine.feed boxes).effect instruction =
      (fun next => next.feed boxes) <$> machine.effect instruction := by
  by_cases opcode : instruction.opcode = .inbox
  · obtain ⟨program, floor, hand, inbox, shipped, position, steps, stop⟩ := machine
    cases inbox with
    | nil => exact absurd rfl (served opcode)
    | cons box rest =>
        simp only [effect, opcode]
        rfl
  · exact (goesUnnoticed_feed boxes).effect opcode

/-- No step fails because of the inbox. -/
theorem FailsAt.feed {error : StepError} (fails : machine.FailsAt instruction error)
    (boxes : List Box) : (machine.feed boxes).FailsAt instruction error := by
  obtain ⟨current, failed⟩ := failsAt_iff.mp fails
  have served : instruction.opcode = .inbox → machine.inbox ≠ [] := by
    intro opcode
    rw [effect, opcode] at failed
    cases failed
  rw [failsAt_iff, effect_feed served, failed]
  exact ⟨current, rfl⟩

/-- A run may take a step if its limit is above the count of the machine, or if it has no limit and
somebody watches it. -/
def MayStep (machine : Machine) (limit : Option Int) (patience : Nat) : Prop :=
  match limit with
  | some limit => (machine.steps : Int) < limit
  | none => 0 < patience

theorem allowance_pos_iff (machine : Machine) (limit : Option Int) (patience : Nat) :
    0 < machine.allowance limit patience ↔ machine.MayStep limit patience := by
  cases limit with
  | none => exact Iff.rfl
  | some limit =>
      simp only [allowance, MayStep]
      omega

/-- A run of a machine that fails at its current instruction leaves the machine as it is. -/
theorem machine_run_of_failsAt (unstopped : machine.stop = none) {cause : Cause}
    (fails : machine.FailsAt instruction (.fault cause)) (limit : Option Int) (patience : Nat) :
    (machine.run limit patience).machine = machine := by
  cases allowed : machine.allowance limit patience with
  | zero => rw [run_of_unstopped unstopped, allowed, walk_zero_of_current fails.1]; rfl
  | succ rest => rw [run_of_unstopped unstopped, allowed, walk_of_failsAt fails]; rfl

/-- The boxes that were fed come in the order of the requests. -/
def fedBoxes (requests : List Request) : List Box :=
  requests.flatMap fun request =>
    match request with
    | .run _ _ => []
    | .feed boxes => boxes

/-- The machine serves all requests one after another. -/
def serveAll (machine : Machine) (requests : List Request) : Machine := requests.foldl serve machine

theorem serveAll_append (machine : Machine) (first second : List Request) :
    machine.serveAll (first ++ second) = (machine.serveAll first).serveAll second :=
  List.foldl_append

/-- A machine that runs leave alone, fed or not, only collects what it is fed. -/
theorem serveAll_of_resting (rests : Machine → Prop)
    (fed : ∀ machine boxes, rests machine → rests (machine.feed boxes))
    (left : ∀ machine limit patience, rests machine →
      (machine.run limit patience).machine = machine)
    {machine : Machine} (resting : rests machine) (requests : List Request) :
    machine.serveAll requests = machine.feed (fedBoxes requests) := by
  induction requests generalizing machine with
  | nil => exact (feed_nil machine).symm
  | cons request rest inductionHypothesis =>
      change (machine.serve request).serveAll rest = _
      cases request with
      | run limit patience =>
          change (machine.run limit patience).machine.serveAll rest = _
          rw [left machine limit patience resting]
          exact inductionHypothesis resting
      | feed boxes =>
          change (machine.feed boxes).serveAll rest = _
          rw [inductionHypothesis (fed machine boxes resting), feed_feed]
          rfl

/-- A machine that fails at its current instruction only collects what it is fed. -/
theorem serveAll_of_failsAt (unstopped : machine.stop = none) {cause : Cause}
    (fails : machine.FailsAt instruction (.fault cause)) (requests : List Request) :
    machine.serveAll requests = machine.feed (fedBoxes requests) := by
  apply serveAll_of_resting
    fun machine => machine.stop = none ∧ machine.FailsAt instruction (.fault cause)
  · intro machine boxes resting
    exact ⟨resting.1, resting.2.feed boxes⟩
  · intro machine limit patience resting
    exact machine_run_of_failsAt resting.1 resting.2 limit patience
  · exact ⟨unstopped, fails⟩

/-- A machine that stopped only collects what it is fed. -/
theorem serveAll_of_stopped {reason : Stop} (stopped : machine.stop = some reason)
    (requests : List Request) : machine.serveAll requests = machine.feed (fedBoxes requests) := by
  apply serveAll_of_resting fun machine => machine.stop = some reason
  · intro machine boxes resting
    exact resting
  · intro machine limit patience resting
    rw [run_of_stopped resting]
  · exact stopped

variable {program : Program} {bound : Option Int}

/-- A run that raises a fault came within its allowance to a step that fails. -/
theorem failsAt_of_run_faulted (running : machine.stop = none) {limit : Option Int}
    {patience : Nat} {fault : Fault}
    (faulted : (machine.run limit patience).outcome = .faulted fault) :
    ∃ count instruction cause, count < machine.allowance limit patience ∧
      WalksTo count machine (machine.run limit patience).machine ∧
      (machine.run limit patience).machine.FailsAt instruction (.fault cause) ∧
      fault = (machine.run limit patience).machine.faultAt instruction cause := by
  obtain ⟨report, ran, reports⟩ := exists_reports running limit patience
  rw [ran] at faulted ⊢
  obtain ⟨outcome, left⟩ := report
  cases faulted
  cases reports with
  | faulted within walks fails => exact ⟨_, _, _, within, walks, fails, rfl⟩

/-- A run that raises a fault stands at the step that failed, after steps that all succeeded. -/
theorem exists_of_run_faulted (running : machine.stop = none) {limit : Option Int}
    {patience : Nat} {fault : Fault}
    (faulted : (machine.run limit patience).outcome = .faulted fault) :
    ∃ count instruction cause,
      WalksTo count machine (machine.run limit patience).machine ∧
      (machine.run limit patience).machine.FailsAt instruction (.fault cause) ∧
      fault = (machine.run limit patience).machine.faultAt instruction cause := by
  obtain ⟨count, instruction, cause, -, told⟩ := failsAt_of_run_faulted running faulted
  exact ⟨count, instruction, cause, told⟩

/-- A machine is stuck with a fault if each run that arrives at it or goes on from it raises the
fault and leaves it alone. -/
structure IsStuckWith (machine : Machine) (fault : Fault) : Prop where
  arrives : ∀ earlier count limit patience, earlier.stop = none → WalksTo count earlier machine →
    count < earlier.allowance limit patience →
    earlier.run limit patience = ⟨.faulted fault, machine⟩
  collects : ∀ later, machine.serveAll later = machine.feed (fedBoxes later)
  remains : ∀ later limit patience, (machine.serveAll later).MayStep limit patience →
    (machine.serveAll later).run limit patience = ⟨.faulted fault, machine.serveAll later⟩

theorem isStuckWith_of_failsAt (unstopped : machine.stop = none) {cause : Cause}
    (fails : machine.FailsAt instruction (.fault cause)) :
    machine.IsStuckWith (machine.faultAt instruction cause) where
  arrives := by
    intro earlier count limit patience running walks allowed
    exact (run_eq_iff running).mpr (.faulted allowed walks fails)
  collects := serveAll_of_failsAt unstopped fails
  remains := by
    intro later limit patience may
    rw [← allowance_pos_iff] at may
    rw [serveAll_of_failsAt unstopped fails] at may ⊢
    have stillRunning : (machine.feed (fedBoxes later)).stop = none := unstopped
    exact (run_eq_iff stillRunning).mpr (.faulted may (.stay _) (fails.feed _))

/-- A run of a reachable machine that raises a fault stands where its last successful step led. A
reachable machine whose next step fails is stuck with a fault that tells its own state. -/
theorem fault_atomic_and_stable (wellFormed : program.WellFormed)
    (short : ∀ last, bound = some last → Numeral.isWritable last = true)
    (reachable : Reachable program bound machine) :
    (∀ limit patience fault, (machine.run limit patience).outcome = .faulted fault →
      ∃ count instruction cause,
        WalksTo count machine (machine.run limit patience).machine ∧
        (machine.run limit patience).machine.FailsAt instruction (.fault cause) ∧
        fault = (machine.run limit patience).machine.faultAt instruction cause) ∧
    ∀ instruction error, machine.FailsAt instruction error →
      (Deed.perform instruction).run machine = .error error machine ∧
      program.instructions[machine.position]? = some instruction ∧
      ∃ cause, error = .fault cause ∧ cause.IsWritable ∧ machine.IsStuckWith
        ⟨cause.kind, machine.position, instruction, cause.detail, machine.outbox⟩ := by
  have keeps := reachable.keepsTo wellFormed
  constructor
  · intro limit patience fault faulted
    cases stop : machine.stop with
    | none => exact exists_of_run_faulted stop faulted
    | some reason =>
        rw [run_of_stopped stop] at faulted
        cases faulted
  · intro instruction error fails
    obtain ⟨current, failed⟩ := failsAt_iff.mp fails
    obtain ⟨cause, same, writable⟩ := keeps.isFault wellFormed short fails
    rw [same] at fails
    refine ⟨run_perform_eq_error_iff.mpr ⟨rfl, failed⟩, ?_, cause, same, writable, ?_⟩
    · unfold current? at current
      rwa [keeps.runs] at current
    · exact isStuckWith_of_failsAt (keeps.running current).1 fails

/-- This machine holds the letter of its inbox and cannot add a number to it. -/
def letterMachine : Machine := adderMachine.serve (.run (some 5) 0)

theorem fault_atomic_and_stable_letter :
    letterMachine.IsStuckWith ⟨.typeMismatch, 1, ⟨.add, some ⟨0, false⟩, none, 3⟩,
      "cannot add letter A and integer 5", [.number ⟨10, by decide, by decide⟩]⟩ := by
  have reachable : Reachable adderProgram (some 0) letterMachine :=
    .serve (.build build_adder) (.run (some 5) 0)
  obtain ⟨-, stuck⟩ :=
    fault_atomic_and_stable (by decide +kernel) isWritable_adder_bound reachable
  obtain ⟨-, -, cause, same, -, isStuck⟩ := stuck ⟨.add, some ⟨0, false⟩, none, 3⟩
    (.fault (.arithmetic (.cannotAdd (.letter ⟨'A', by decide, by decide⟩) five))) ⟨rfl, _, rfl⟩
  rw [← StepError.fault.inj same] at isStuck
  have told : (Cause.arithmetic (.cannotAdd (.letter ⟨'A', by decide, by decide⟩) five)).detail =
      "cannot add letter A and integer 5" := by
    decide +kernel
  rw [told] at isStuck
  exact isStuck

end OfficeMachine.Machine
