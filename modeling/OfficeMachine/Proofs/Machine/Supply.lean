/-
This file shows that more input never changes the past. A machine that was fed does what it would
have done without, until the smaller inbox is empty and halts it.
-/

import OfficeMachine.Proofs.Machine.Simulation

namespace OfficeMachine

/-- The boxes that had reached the outbox belong to each end of a run. -/
def RunOutcome.output? : RunOutcome → Option (List Box)
  | .returned output => some output
  | .faulted fault => some fault.output
  | .limitReached reached => some reached.output
  | .noTile | .unwritableLimit | .alreadyStopped | .unfinished => none

/-- A report shows the outbox of its machine, except where it cannot even write its limit. -/
def RunReport.ShowsOutbox (report : RunReport) (limit : Option Int) : Prop :=
  report.outcome.output? = some report.machine.outbox ∨
    report.outcome = .unwritableLimit ∧
      ∃ last, limit = some last ∧ Numeral.isWritable last = false

namespace Machine

variable {program : Program} {bound : Option Int} {initial : Table Int Box} {inbox : List Box}
variable {machine left : Machine} {instruction : Instruction} {count : Nat}

/-- Only a machine that halted before ends as halted. -/
theorem stop_of_finish (halted : machine.finish.stop = some .halt) : machine.stop = some .halt := by
  unfold finish at halted
  cases stop : machine.stop with
  | none =>
      rw [stop] at halted
      cases halted
  | some reason => rwa [stop] at halted

theorem effect_of_empty_inbox (opcode : instruction.opcode = .inbox)
    (empty : machine.inbox = []) : machine.effect instruction = .ok machine.halted := by
  obtain ⟨program, floor, hand, inbox, shipped, position, steps, stop⟩ := machine
  cases empty
  rw [effect, opcode]
  rfl

/-- A fed machine does the same until the other one halts. -/
theorem simulates_feed (boxes : List Box) :
    Simulates (fun machine other => other = machine.feed boxes)
      (fun report => report.machine.stop = some .halt) where
  looks := by
    intro machine other same
    rw [same]
    exact ⟨rfl, rfl, rfl, rfl, rfl⟩
  finish := by
    intro machine other same
    rw [same]
    rfl
  stepsTo := by
    intro machine other next same steps
    obtain ⟨instruction, current, performed⟩ := steps
    rw [run_perform_eq_ok_iff] at performed
    by_cases starved : instruction.opcode = .inbox ∧ machine.inbox = []
    · left
      rw [effect_of_empty_inbox starved.1 starved.2] at performed
      rw [← Except.ok.inj performed]
      exact ⟨rfl, current?_halted machine⟩
    · right
      have served : instruction.opcode = .inbox → machine.inbox ≠ [] := by
        intro opcode empty
        exact starved ⟨opcode, empty⟩
      rw [same]
      refine ⟨next.feed boxes, ⟨instruction, current, run_perform_eq_ok_iff.mpr ?_⟩, rfl⟩
      rw [effect_feed served, performed]
      rfl
  failsAt := by
    intro machine other instruction error same fails
    rw [same]
    exact Or.inr (fails.feed boxes)

/-- A machine that has not halted may be fed before its walk instead of after it. -/
theorem WalksTo.feed (walks : WalksTo count machine left) (unhalted : left.stop ≠ some .halt)
    (boxes : List Box) : WalksTo count (machine.feed boxes) (left.feed boxes) := by
  rcases (simulates_feed boxes).walksTo rfl walks with ⟨halted, -⟩ | ⟨follower, followed, same⟩
  · exact absurd (stop_of_finish halted) unhalted
  · rw [same] at followed
    exact followed

/-- A run that does not halt may be fed before instead of after it. -/
theorem run_feed (unstopped : machine.stop = none) {limit : Option Int} {patience : Nat}
    (unhalted : (machine.run limit patience).machine.stop ≠ some .halt) (boxes : List Box) :
    (machine.feed boxes).run limit patience =
      ⟨(machine.run limit patience).outcome,
        (machine.run limit patience).machine.feed boxes⟩ := by
  rcases (simulates_feed boxes).run rfl unstopped limit patience with halted | ⟨_, ran, same⟩
  · exact absurd halted unhalted
  · rw [ran, same]

/-- A run that comes to an end shows the whole outbox, and nothing of the earlier one is lost. -/
theorem KeepsTo.outbox_of_answers (keeps : machine.KeepsTo program bound)
    (wellFormed : program.WellFormed)
    (short : ∀ last, bound = some last → Numeral.isWritable last = true)
    (unstopped : machine.stop = none) {limit : Option Int} {report : RunReport}
    (answers : machine.Answers limit report) :
    machine.outbox <+: report.machine.outbox ∧ report.ShowsOutbox limit := by
  obtain ⟨ended, patience, same⟩ := answers
  cases (run_eq_iff unstopped).mp same with
  | returned _ walks _ => exact ⟨walks.outbox_prefix, Or.inl rfl⟩
  | faulted _ walks _ => exact ⟨walks.outbox_prefix, Or.inl rfl⟩
  | noTile _ walks fails =>
      obtain ⟨_, isFault, -⟩ := (keeps.walksTo wellFormed walks).isFault wellFormed short fails
      cases isFault
  | limitReached walks _ _ => exact ⟨walks.outbox_prefix, Or.inl rfl⟩
  | unwritableLimit walks _ overlong =>
      exact ⟨walks.outbox_prefix, Or.inr ⟨rfl, _, rfl, overlong⟩⟩
  | unfinished _ _ => exact absurd rfl ended

/-- A run that halts comes from a machine that asks for a box in vain. -/
theorem exists_before_halt (unstopped : machine.stop = none) {limit : Option Int}
    {output : List Box} (answers : machine.Answers limit ⟨.returned output, left⟩)
    (halted : left.stop = some .halt) :
    ∃ count before, WalksTo count machine before ∧ before.stop = none ∧
      output = before.outbox ∧ left.steps = before.steps + 1 ∧ Allows limit left.steps := by
  obtain ⟨-, patience, same⟩ := answers
  cases (run_eq_iff unstopped).mp same with
  | @returned _ count last within walks behind =>
      have stopped := stop_of_finish halted
      cases count with
      | zero =>
          -- A run without a step ends as done.
          cases walks
          rw [unstopped] at stopped
          cases stopped
      | succ count =>
          obtain ⟨before, walks, lastStep⟩ := walks.exists_last
          obtain ⟨instruction, current, moves⟩ := lastStep.movesTo
          have running := walks.unstopped unstopped current
          have counted := walks.steps_eq
          have isHalted : last = before.halted := by
            rcases lastStep.unstopped_or_halted running with unhalted | isHalted
            · rw [unhalted] at stopped
              cases stopped
            · exact isHalted
          refine ⟨count, before, walks, running, ?_, moves.steps, ?_⟩
          · rw [isHalted]
            rfl
          · intro bound given
            subst given
            change ((last.steps : Nat) : Int) ≤ bound
            rw [moves.steps]
            simp only [allowance] at within
            omega

/-- A run that can be taken up again leaves a machine that has not stopped. -/
theorem unstopped_of_isInterrupted {limit : Option Int} {patience : Nat}
    (interrupted : (machine.run limit patience).outcome.isInterrupted = true) :
    (machine.run limit patience).machine.stop = none := by
  cases stop : machine.stop with
  | some reason =>
      rw [run_of_stopped stop] at interrupted
      cases interrupted
  | none =>
      obtain ⟨report, ran, reports⟩ := exists_reports stop limit patience
      rw [ran] at interrupted ⊢
      cases reports with
      | returned _ _ _ => cases interrupted
      | faulted _ walks fails => exact walks.unstopped stop fails.1
      | noTile _ _ _ => cases interrupted
      | limitReached walks current _ => exact walks.unstopped stop current
      | unwritableLimit walks current _ => exact walks.unstopped stop current
      | unfinished _ _ => cases interrupted

/-- A run that does not stop the machine walks to what it leaves. -/
theorem exists_walksTo_of_run {limit : Option Int} {patience : Nat}
    (unstopped : (machine.run limit patience).machine.stop = none) :
    machine.stop = none ∧ ∃ count, WalksTo count machine (machine.run limit patience).machine := by
  cases stop : machine.stop with
  | some reason =>
      rw [run_of_stopped stop, stop] at unstopped
      cases unstopped
  | none =>
      refine ⟨rfl, ?_⟩
      obtain ⟨count, left, walks, same | ⟨-, same⟩⟩ :=
        (reports_run stop limit patience).exists_walksTo
      · rw [same]
        exact ⟨count, walks⟩
      · rw [same] at unstopped
        cases unstopped

/-- A session that has not stopped its machine walks where the machine would have walked that had all
the boxes from the start. -/
theorem exists_walksTo_of_serveAll {requests : List Request}
    (unstopped : (machine.serveAll requests).stop = none) :
    machine.stop = none ∧
      ∃ count, WalksTo count (machine.feed (fedBoxes requests)) (machine.serveAll requests) := by
  induction requests generalizing machine with
  | nil =>
      refine ⟨unstopped, 0, ?_⟩
      change WalksTo 0 (machine.feed []) machine
      rw [feed_nil]
      exact .stay machine
  | cons request rest inductionHypothesis =>
      obtain ⟨running, count, walks⟩ := @inductionHypothesis (machine.serve request) unstopped
      cases request with
      | run limit patience =>
          obtain ⟨stop, earlier, walked⟩ := exists_walksTo_of_run running
          have unhalted : (machine.run limit patience).machine.stop ≠ some .halt :=
            fun halted => nomatch running.symm.trans halted
          exact ⟨stop, earlier + count, (walked.feed unhalted (fedBoxes rest)).trans walks⟩
      | feed boxes =>
          refine ⟨running, count, ?_⟩
          change WalksTo count ((machine.feed boxes).feed (fedBoxes rest)) _ at walks
          rw [feed_feed] at walks
          exact walks

/-- More input never changes the past of a new machine. A machine with more boxes on the inbox goes
through the same states until the other one halts, and runs that do not halt have the same outcome. A
run that halts leaves an outbox with which the outbox of each run on more boxes begins, and that run
shows it. Boxes may also arrive later, as long as no run has stopped the machine. -/
theorem more_input_keeps_past (wellFormed : program.WellFormed)
    (short : ∀ last, bound = some last → Numeral.isWritable last = true)
    (built : build program initial inbox bound = .ok machine) (boxes : List Box) :
    build program initial (inbox ++ boxes) bound = .ok (machine.feed boxes) ∧
    (∀ count left, WalksTo count machine left → left.stop ≠ some .halt →
      WalksTo count (machine.feed boxes) (left.feed boxes)) ∧
    (∀ limit patience, (machine.run limit patience).machine.stop ≠ some .halt →
      (machine.feed boxes).run limit patience =
        ⟨(machine.run limit patience).outcome,
          (machine.run limit patience).machine.feed boxes⟩) ∧
    (∀ limit output left, machine.Answers limit ⟨.returned output, left⟩ →
      left.stop = some .halt → Allows limit left.steps ∧
      ∀ later report, Allows later left.steps → (machine.feed boxes).Answers later report →
        output <+: report.machine.outbox ∧ report.ShowsOutbox later) ∧
    ∀ requests limit patience left, machine.serveAll requests = left →
      (left.run limit patience).outcome.isInterrupted = true →
      ∀ later report, Allows later (left.run limit patience).machine.steps →
        (((left.run limit patience).machine.feed boxes).Answers later report ↔
          (machine.feed (fedBoxes requests ++ boxes)).Answers later report) := by
  have keeps := keepsTo_of_build built
  obtain ⟨floor, sameBound, holds, same⟩ := build_eq_ok_iff.mp built
  have unstopped : machine.stop = none := by
    rw [← same]
    rfl
  refine ⟨?_, ?_, ?_, ?_, ?_⟩
  · rw [← same]
    exact build_eq_ok_iff.mpr ⟨floor, sameBound, holds, rfl⟩
  · intro count left walks unhalted
    exact walks.feed unhalted boxes
  · intro limit patience unhalted
    exact run_feed unstopped unhalted boxes
  · intro limit output left answers halted
    obtain ⟨count, before, walks, running, isOutput, counted, allows⟩ :=
      exists_before_halt unstopped answers halted
    refine ⟨allows, ?_⟩
    intro later report allowsLater laterAnswers
    have unhalted : before.stop ≠ some .halt := fun halted => nomatch running.symm.trans halted
    have allowsBefore : Allows later before.steps := by
      intro last given
      have enough := allowsLater last given
      omega
    have fedUnstopped : (machine.feed boxes).stop = none := unstopped
    have answersBefore : (before.feed boxes).Answers later report :=
      (answers_iff_of_walksTo fedUnstopped (walks.feed unhalted boxes) running allowsBefore
        report).mp laterAnswers
    have fedKeeps := (keeps.walksTo wellFormed walks).feed boxes
    rw [isOutput]
    exact fedKeeps.outbox_of_answers wellFormed short running answersBefore
  · intro requests limit patience left served interrupted later report allows
    have running := unstopped_of_isInterrupted interrupted
    have session : machine.serveAll (requests ++ [.run limit patience, .feed boxes]) =
        (left.run limit patience).machine.feed boxes := by
      rw [serveAll_append, served]
      rfl
    have fed : fedBoxes (requests ++ [.run limit patience, .feed boxes]) =
        fedBoxes requests ++ boxes := by
      simp [fedBoxes]
    have stillRunning :
        (machine.serveAll (requests ++ [.run limit patience, .feed boxes])).stop = none := by
      rw [session]
      exact running
    have fedUnstopped : (machine.feed (fedBoxes requests ++ boxes)).stop = none := unstopped
    have fedRunning : ((left.run limit patience).machine.feed boxes).stop = none := running
    obtain ⟨-, count, walks⟩ := exists_walksTo_of_serveAll stillRunning
    rw [session, fed] at walks
    exact (answers_iff_of_walksTo fedUnstopped walks fedRunning allows report).symm

/-- This machine has only the first box of the inbox and halts when it asks for another one. -/
def hungryAdder : Machine := start adderProgram adderMachine.floor [five]

theorem more_input_keeps_past_adder :
    build adderProgram ⟨[(0, five)], by decide⟩ ([five] ++ [.letter ⟨'A', by decide, by decide⟩])
        (some 0) = .ok adderMachine ∧
      [.number ⟨10, by decide, by decide⟩] <+: (letterMachine.run none 1).machine.outbox ∧
        (letterMachine.run none 1).ShowsOutbox none := by
  have built :
      build adderProgram ⟨[(0, five)], by decide⟩ [five] (some 0) = .ok hungryAdder := rfl
  obtain ⟨fed, -, -, halts, -⟩ := more_input_keeps_past (by decide +kernel)
    isWritable_adder_bound built [.letter ⟨'A', by decide, by decide⟩]
  have answers : hungryAdder.Answers none
      ⟨.returned [.number ⟨10, by decide, by decide⟩], (hungryAdder.run none 5).machine⟩ :=
    ⟨nofun, 5, rfl⟩
  have goesOn : adderMachine.Answers none (letterMachine.run none 1) := ⟨nofun, 6, rfl⟩
  exact ⟨fed, (halts _ _ _ answers rfl).2 none _ nofun goesOn⟩

end Machine

end OfficeMachine
