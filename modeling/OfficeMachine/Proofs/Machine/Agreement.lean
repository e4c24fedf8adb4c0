/-
This file shows that programs that agree run alike. A machine looks only at the actions of its
program, so neither the lines nor the labels have any influence on a run.
-/

import OfficeMachine.Run
import OfficeMachine.Proofs.Machine.Stability
import OfficeMachine.Proofs.Program.RoundTrip

namespace OfficeMachine

/-- Without the line of its instruction, a fault only tells what the worker did. -/
def Fault.unplaced (fault : Fault) : Fault :=
  { fault with instruction := fault.instruction.unplaced }

/-- No other outcome than a fault shows a line of the script. -/
def RunOutcome.unplaced : RunOutcome → RunOutcome
  | .faulted fault => .faulted fault.unplaced
  | .returned output => .returned output
  | .noTile => .noTile
  | .limitReached reached => .limitReached reached
  | .unwritableLimit => .unwritableLimit
  | .alreadyStopped => .alreadyStopped
  | .unfinished => .unfinished

namespace Program

variable {program other : Program}

theorem Agrees.size (agree : program.Agrees other) : other.size = program.size := by
  have same := congrArg List.length agree
  simpa only [actions, List.length_map, Array.length_toList, Program.size] using same.symm

/-- Programs that agree have the same instructions at each index, apart from the lines. -/
theorem Agrees.getElem? (agree : program.Agrees other) (index : Nat) :
    other.instructions[index]?.map Instruction.unplaced =
      program.instructions[index]?.map Instruction.unplaced := by
  have same : program.actions[index]? = other.actions[index]? := congrArg (·[index]?) agree
  simpa only [actions, List.getElem?_map, Array.getElem?_toList] using same.symm

end Program

namespace Machine

/-- This machine has another program and is the same in everything else. -/
def withProgram (machine : Machine) (program : Program) : Machine :=
  { machine with program := program }

variable {machine : Machine} {program other : Program} {instruction counterpart : Instruction}

/-- No effect depends on the line of its instruction. -/
theorem effect_eq_of_unplaced (alike : counterpart.unplaced = instruction.unplaced) :
    machine.effect counterpart = machine.effect instruction := by
  have placeless (given : Instruction) :
      machine.effect given.unplaced = machine.effect given := rfl
  rw [← placeless counterpart, alike, placeless]

/-- The worker does not notice another program. -/
theorem goesUnnoticed_withProgram (other : Program) :
    GoesUnnoticed fun machine => machine.withProgram other where
  floor := fun _ => rfl
  hand := fun _ => rfl
  shipped := fun _ => rfl
  position := fun _ => rfl
  steps := fun _ => rfl
  rework := fun _ _ _ _ _ _ => rfl

/-- An instruction has the same effect with another program of the same size. Only a machine that
halts looks at the size. -/
theorem effect_withProgram (sameSize : other.size = machine.program.size) :
    (machine.withProgram other).effect instruction =
      (fun next => next.withProgram other) <$> machine.effect instruction := by
  by_cases opcode : instruction.opcode = .inbox
  · obtain ⟨program, floor, hand, inbox, shipped, position, steps, stop⟩ := machine
    cases inbox with
    | nil =>
        simp only [effect, opcode, tookFromInbox, withProgram, sameSize]
        rfl
    | cons box rest =>
        simp only [effect, opcode]
        rfl
  · exact (goesUnnoticed_withProgram other).effect opcode

section Agrees

variable (agree : machine.program.Agrees other)
include agree

theorem current?_withProgram :
    (machine.withProgram other).current?.map Instruction.unplaced =
      machine.current?.map Instruction.unplaced :=
  agree.getElem? machine.position

theorem exists_current_withProgram (current : machine.current? = some instruction) :
    ∃ counterpart, (machine.withProgram other).current? = some counterpart ∧
      counterpart.unplaced = instruction.unplaced := by
  have same := current?_withProgram agree
  rw [current] at same
  exact Option.map_eq_some_iff.mp same

theorem effect_counterpart (alike : counterpart.unplaced = instruction.unplaced) :
    (machine.withProgram other).effect counterpart =
      (fun next => next.withProgram other) <$> machine.effect instruction := by
  rw [effect_eq_of_unplaced alike, effect_withProgram agree.size]

theorem stepsTo_withProgram {next : Machine} (steps : machine.StepsTo next) :
    (machine.withProgram other).StepsTo (next.withProgram other) := by
  obtain ⟨instruction, current, performed⟩ := steps
  obtain ⟨counterpart, present, alike⟩ := exists_current_withProgram agree current
  refine ⟨counterpart, present, run_perform_eq_ok_iff.mpr ?_⟩
  rw [effect_counterpart agree alike, run_perform_eq_ok_iff.mp performed]
  rfl

theorem failsAt_withProgram {error : StepError} (fails : machine.FailsAt instruction error) :
    ∃ counterpart, counterpart.unplaced = instruction.unplaced ∧
      (machine.withProgram other).FailsAt counterpart error := by
  obtain ⟨current, failed⟩ := failsAt_iff.mp fails
  obtain ⟨counterpart, present, alike⟩ := exists_current_withProgram agree current
  refine ⟨counterpart, alike, failsAt_iff.mpr ⟨present, ?_⟩⟩
  rw [effect_counterpart agree alike, failed]
  rfl

end Agrees

/-- Walks of machines with agreeing programs come to the same state and, if they fail, to the same
error at instructions that differ at most in their lines. -/
inductive AgreesOn (other : Program) : Walk → Walk → Prop
  | ended (machine : Machine) : AgreesOn other (.ended machine) (.ended (machine.withProgram other))
  | failed (machine : Machine) (error : StepError) {instruction counterpart : Instruction}
      (alike : counterpart.unplaced = instruction.unplaced) :
      AgreesOn other (.failed machine instruction error)
        (.failed (machine.withProgram other) counterpart error)
  | going (machine : Machine) : AgreesOn other (.going machine) (.going (machine.withProgram other))

theorem agreesOn_walk (agree : machine.program.Agrees other) (patience : Nat) :
    AgreesOn other (machine.walk patience) ((machine.withProgram other).walk patience) := by
  induction patience generalizing machine with
  | zero =>
      cases current : machine.current? with
      | none =>
          have behind : (machine.withProgram other).current? = none := by
            simpa [current] using current?_withProgram agree
          rw [walk_of_ended current, walk_of_ended behind]
          exact .ended machine
      | some instruction =>
          obtain ⟨counterpart, present, -⟩ := exists_current_withProgram agree current
          rw [walk_zero_of_current current, walk_zero_of_current present]
          exact .going machine
  | succ patience inductionHypothesis =>
      obtain ended | ⟨instruction, error, fails⟩ | ⟨next, steps⟩ := machine.ends_or_fails_or_steps
      · have behind : (machine.withProgram other).current? = none := by
          simpa [ended] using current?_withProgram agree
        rw [walk_of_ended ended, walk_of_ended behind]
        exact .ended machine
      · obtain ⟨counterpart, alike, follows⟩ := failsAt_withProgram agree fails
        rw [walk_of_failsAt fails, walk_of_failsAt follows]
        exact .failed machine error alike
      · obtain ⟨instruction, -, moves⟩ := steps.movesTo
        rw [walk_of_stepsTo steps, walk_of_stepsTo (stepsTo_withProgram agree steps)]
        exact inductionHypothesis (moves.program ▸ agree)

/-- Machines with agreeing programs run to the same state and the same outcome, apart from the line
that a fault tells. -/
theorem run_withProgram (agree : machine.program.Agrees other) (limit : Option Int)
    (patience : Nat) :
    ((machine.withProgram other).run limit patience).machine =
        (machine.run limit patience).machine.withProgram other ∧
      ((machine.withProgram other).run limit patience).outcome.unplaced =
        (machine.run limit patience).outcome.unplaced := by
  cases stop : machine.stop with
  | some reason =>
      have stopped : (machine.withProgram other).stop = some reason := stop
      rw [run_of_stopped stop, run_of_stopped stopped]
      exact ⟨rfl, rfl⟩
  | none =>
      have unstopped : (machine.withProgram other).stop = none := stop
      have allowed : (machine.withProgram other).allowance limit patience =
          machine.allowance limit patience := rfl
      have walks := agreesOn_walk agree (machine.allowance limit patience)
      rw [run_of_unstopped stop, run_of_unstopped unstopped, allowed]
      generalize machine.walk _ = walk at walks ⊢
      generalize (machine.withProgram other).walk _ = follower at walks ⊢
      cases walks with
      | ended left => exact ⟨rfl, rfl⟩
      | failed left error alike =>
          cases error with
          | noTile => exact ⟨rfl, rfl⟩
          | fault cause =>
              refine ⟨rfl, ?_⟩
              simp only [report, RunOutcome.unplaced, Fault.unplaced, faultAt, alike]
              rfl
      | going left => cases limit <;> exact ⟨rfl, rfl⟩

theorem WalksTo.program_eq {count : Nat} {left : Machine} (walks : WalksTo count machine left) :
    left.program = machine.program := by
  induction walks with
  | stay machine => rfl
  | step first _ inductionHypothesis =>
      obtain ⟨instruction, -, moves⟩ := first.movesTo
      exact inductionHypothesis.trans moves.program

/-- No request changes the program. -/
theorem program_serve (machine : Machine) (request : Request) :
    (machine.serve request).program = machine.program := by
  cases request with
  | feed boxes => rfl
  | run limit patience =>
      change (machine.run limit patience).machine.program = machine.program
      cases stop : machine.stop with
      | some reason => rw [run_of_stopped stop]
      | none =>
          obtain ⟨count, left, walks, same | ⟨-, same⟩⟩ :=
            (reports_run stop limit patience).exists_walksTo
          · rw [same, walks.program_eq]
          · rw [same]
            exact walks.program_eq

theorem program_serveAll (machine : Machine) (requests : List Request) :
    (machine.serveAll requests).program = machine.program := by
  induction requests generalizing machine with
  | nil => rfl
  | cons request rest inductionHypothesis =>
      exact (inductionHypothesis (machine.serve request)).trans (machine.program_serve request)

/-- A session with an agreeing program leaves the same state. -/
theorem serveAll_withProgram (agree : machine.program.Agrees other) (requests : List Request) :
    (machine.withProgram other).serveAll requests =
      (machine.serveAll requests).withProgram other := by
  induction requests generalizing machine with
  | nil => rfl
  | cons request rest inductionHypothesis =>
      have first : (machine.withProgram other).serve request =
          (machine.serve request).withProgram other := by
        cases request with
        | feed boxes => rfl
        | run limit patience => exact (run_withProgram agree limit patience).1
      change ((machine.withProgram other).serve request).serveAll rest = _
      rw [first]
      exact inductionHypothesis ((machine.program_serve request).symm ▸ agree)

theorem build_withProgram (program other : Program) (initial : Table Int Box) (inbox : List Box)
    (bound : Option Int) :
    build other initial inbox bound =
      (build program initial inbox bound).map fun machine => machine.withProgram other := by
  unfold build
  cases Floor.lay initial bound <;> rfl

end Machine

/-- A program that agrees runs to the same outcome from the start. -/
theorem Program.Agrees.run {program other : Program} (agree : program.Agrees other)
    (setting : Setting) :
    (other.run setting).map RunOutcome.unplaced =
      (program.run setting).map RunOutcome.unplaced := by
  unfold Program.run Program.machine
  rw [Machine.build_withProgram program other]
  cases built : Machine.build program setting.initial setting.inbox setting.bound with
  | error error => rfl
  | ok machine =>
      have same : machine.program = program := by
        obtain ⟨floor, -, -, started⟩ := Machine.build_eq_ok_iff.mp built
        rw [← started]
        rfl
      have ran := (Machine.run_withProgram (same.symm ▸ agree) setting.limit setting.patience).2
      exact congrArg Except.ok ran

theorem Program.Agrees.symm {program other : Program} (agree : program.Agrees other) :
    other.Agrees program :=
  Eq.symm agree

namespace Machine

/-- Programs that agree run alike. Their machines are built alike, and whatever requests follow, the
two machines are in the same state and their runs have the same outcome, apart from the line that a
fault tells. The listing of a well-formed program therefore runs like the program. -/
theorem agreeing_programs_run_alike {program other : Program} (agree : program.Agrees other) :
    (∀ initial inbox bound, build other initial inbox bound =
      (build program initial inbox bound).map fun machine => machine.withProgram other) ∧
    (∀ initial inbox bound machine, build program initial inbox bound = .ok machine →
      ∀ requests,
        (machine.withProgram other).serveAll requests =
          (machine.serveAll requests).withProgram other ∧
        ∀ limit patience,
          (((machine.withProgram other).serveAll requests).run limit patience).outcome.unplaced =
            ((machine.serveAll requests).run limit patience).outcome.unplaced) ∧
    (program.WellFormed → (∀ name ∈ program.labels.keys, Script.isName name.toList = true) →
      ∀ setting, (Script.run program.listing setting).map RunOutcome.unplaced =
        ((program.run setting).map RunOutcome.unplaced).mapError .misplaced) := by
  refine ⟨?_, ?_, ?_⟩
  · intro initial inbox bound
    exact build_withProgram program other initial inbox bound
  · intro initial inbox bound machine built requests
    have same : (machine.serveAll requests).program = program := by
      obtain ⟨floor, -, -, started⟩ := build_eq_ok_iff.mp built
      rw [program_serveAll, ← started]
      rfl
    have first : machine.program.Agrees other := by
      rw [← program_serveAll machine requests, same]
      exact agree
    refine ⟨serveAll_withProgram first requests, ?_⟩
    intro limit patience
    rw [serveAll_withProgram first]
    exact (run_withProgram (same.symm ▸ agree) limit patience).2
  · intro wellFormed named setting
    obtain ⟨generated, split, completes⟩ := program.exists_landmarks
    obtain ⟨reread, accepted, agrees, -⟩ := exists_read_listing split completes wellFormed named
    have ran := agrees.symm.run setting
    unfold Script.run
    rw [accepted]
    simp only
    rw [← ran]
    cases reread.run setting <;> rfl

/-- This program adds like the script but knows neither its lines nor its label. -/
def bareAdder : Program := ⟨adderProgram.actions.toArray, Table.empty⟩

theorem agreeing_programs_run_alike_adder :
    (adderMachine.withProgram bareAdder).serveAll [.run (some 2) 0, .feed [five]] =
        (adderMachine.serveAll [.run (some 2) 0, .feed [five]]).withProgram bareAdder ∧
      (Script.run adderProgram.listing
          ⟨adderInbox, ⟨[(0, five)], by decide⟩, some 0, some 9, 0⟩).map RunOutcome.unplaced =
        ((adderProgram.run
          ⟨adderInbox, ⟨[(0, five)], by decide⟩, some 0, some 9, 0⟩).map
            RunOutcome.unplaced).mapError .misplaced := by
  obtain ⟨-, sessions, listings⟩ :=
    agreeing_programs_run_alike (show adderProgram.Agrees bareAdder from rfl)
  exact ⟨(sessions _ _ _ adderMachine build_adder _).1,
    listings (by decide +kernel) (by decide +kernel) _⟩

end Machine

end OfficeMachine
