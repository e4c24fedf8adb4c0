/-
This file shows that step limits are exact. A run that returns needs as many steps as it takes, a run
that faults needs one more, and a run with a lower limit is interrupted there.
-/

import OfficeMachine.Proofs.Machine.Supply

namespace OfficeMachine.Machine

variable {program : Program} {bound : Option Int} {initial : Table Int Box} {inbox : List Box}
variable {machine left : Machine} {count : Nat}

/-- A machine meets a limit at the machine that its run leaves if this run ends at the limit. The run
reports this, unless the limit has too many digits to be written. -/
def MeetsLimit (machine : Machine) (limit : Int) (paused : Machine) : Prop :=
  machine.Answers (some limit) ⟨paused.atLimit limit, paused⟩

theorem meetsLimit_of_limitReached {limit : Int} {reached : LimitReached} {paused : Machine}
    (unstopped : machine.stop = none)
    (answers : machine.Answers (some limit) ⟨.limitReached reached, paused⟩) :
    machine.MeetsLimit limit paused ∧ reached = ⟨limit, paused.position, paused.outbox⟩ := by
  obtain ⟨ended, patience, ran⟩ := answers
  cases (run_eq_iff unstopped).mp ran with
  | limitReached _ _ writable =>
      rw [MeetsLimit, atLimit_of_isWritable writable]
      exact ⟨⟨ended, patience, ran⟩, rfl⟩

/-- A walk can be cut behind any number of its steps. -/
theorem WalksTo.exists_middle {further : Nat} (walks : WalksTo (count + further) machine left) :
    ∃ middle, WalksTo count machine middle ∧ WalksTo further middle left := by
  induction count generalizing machine with
  | zero =>
      rw [Nat.zero_add] at walks
      exact ⟨machine, .stay machine, walks⟩
  | succ count inductionHypothesis =>
      rw [Nat.add_right_comm] at walks
      cases walks with
      | step first rest =>
          obtain ⟨middle, before, behind⟩ := inductionHypothesis rest
          exact ⟨middle, .step first before, behind⟩

/-- A machine meets a limit exactly where the steps that the limit leaves lead to an instruction. -/
theorem meetsLimit_iff (unstopped : machine.stop = none) {limit : Int} {paused : Machine} :
    machine.MeetsLimit limit paused ↔
      WalksTo (limit - machine.steps).toNat machine paused ∧
        ∃ instruction, paused.current? = some instruction := by
  constructor
  · rintro ⟨-, patience, ran⟩
    cases writable : Numeral.isWritable limit with
    | true =>
        rw [atLimit_of_isWritable writable] at ran
        obtain ⟨walks, current, -⟩ :=
          walksTo_of_run_limitReached unstopped (congrArg RunReport.outcome ran)
        rw [ran] at walks current
        exact ⟨walks, current⟩
    | false =>
        rw [atLimit_of_not_isWritable writable, run_eq_iff unstopped] at ran
        cases ran with
        | unwritableLimit walks current _ => exact ⟨walks, _, current⟩
  · rintro ⟨walks, instruction, current⟩
    refine ⟨?_, 0, (run_eq_iff unstopped).mpr (.atLimit walks current)⟩
    unfold atLimit
    split <;> exact nofun

/-- A limit that leaves fewer steps than a walk has is met on the way. -/
theorem WalksTo.meetsLimit (walks : WalksTo count machine left) (unstopped : machine.stop = none)
    {limit : Int} (within : (limit - machine.steps).toNat < count) :
    ∃ paused, machine.MeetsLimit limit paused := by
  obtain ⟨further, split⟩ := Nat.exists_eq_add_of_lt within
  rw [split, Nat.add_assoc] at walks
  obtain ⟨paused, before, behind⟩ := walks.exists_middle
  -- The walk goes on behind this machine, so that it has an instruction.
  cases behind with
  | step first _ =>
      obtain ⟨instruction, current, -⟩ := first
      exact ⟨paused, (meetsLimit_iff unstopped).mpr ⟨before, instruction, current⟩⟩

/-- A run that returns without a limit returns with each limit that leaves as many steps. -/
theorem answers_returned_of_within (unstopped : machine.stop = none) {output : List Box}
    (answers : machine.Answers none ⟨.returned output, left⟩) {limit : Int}
    (within : left.steps ≤ machine.steps + (limit - machine.steps).toNat) :
    machine.Answers (some limit) ⟨.returned output, left⟩ := by
  obtain ⟨-, patience, ran⟩ := answers
  cases (run_eq_iff unstopped).mp ran with
  | @returned _ count last _ walks behind =>
      have enough : last.steps ≤ machine.steps + (limit - machine.steps).toNat := within
      have counted := walks.steps_eq
      refine ⟨nofun, patience, (run_eq_iff unstopped).mpr (.returned ?_ walks behind)⟩
      simp only [allowance]
      omega

/-- A run that faults without a limit faults with each limit that leaves one more step. -/
theorem answers_faulted_of_within (unstopped : machine.stop = none) {fault : Fault}
    (answers : machine.Answers none ⟨.faulted fault, left⟩) {limit : Int}
    (within : left.steps < machine.steps + (limit - machine.steps).toNat) :
    machine.Answers (some limit) ⟨.faulted fault, left⟩ := by
  obtain ⟨-, patience, ran⟩ := answers
  cases (run_eq_iff unstopped).mp ran with
  | faulted _ walks fails =>
      have counted := walks.steps_eq
      refine ⟨nofun, patience, (run_eq_iff unstopped).mpr (.faulted ?_ walks fails)⟩
      simp only [allowance]
      omega

/-- A walk to a machine that halted ends with the instruction that asked for a box in vain. -/
theorem WalksTo.exists_before_halt (walks : WalksTo count machine left)
    (unstopped : machine.stop = none) (halted : left.stop = some .halt) :
    ∃ earlier before instruction, count = earlier + 1 ∧ WalksTo earlier machine before ∧
      before.current? = some instruction ∧ instruction.opcode = .inbox ∧ before.inbox = [] := by
  cases count with
  | zero =>
      cases walks
      rw [unstopped] at halted
      cases halted
  | succ earlier =>
      obtain ⟨before, walks, lastStep⟩ := walks.exists_last
      obtain ⟨instruction, current, moves⟩ := lastStep.movesTo
      have running := walks.unstopped unstopped current
      refine ⟨earlier, before, instruction, rfl, walks, current, ?_⟩
      rcases moves.place with ⟨same, -⟩ | ⟨opcode, empty, -⟩
      · rw [same, running] at halted
        cases halted
      · exact ⟨opcode, empty⟩

/-- The limit is met by a machine that neither comes to an end nor fails. -/
theorem meetsLimit_of_unending (unstopped : machine.stop = none)
    (unending : ∀ report, ¬machine.Answers none report) (limit : Int) :
    ∃ paused, machine.MeetsLimit limit paused := by
  let patience := (limit - machine.steps).toNat
  obtain ⟨report, ran, reports⟩ := exists_reports unstopped none patience
  cases reports with
  | returned _ _ _ => exact absurd ⟨by simp, patience, ran⟩ (unending _)
  | faulted _ _ _ => exact absurd ⟨by simp, patience, ran⟩ (unending _)
  | noTile _ _ _ => exact absurd ⟨by simp, patience, ran⟩ (unending _)
  | unfinished walks current =>
      exact ⟨_, (meetsLimit_iff unstopped).mpr ⟨walks, _, current⟩⟩

/-- The outbox of a machine that met a limit is where all runs with a higher limit begin. -/
theorem MeetsLimit.output_prefix (keeps : machine.KeepsTo program bound)
    (wellFormed : program.WellFormed)
    (short : ∀ last, bound = some last → Numeral.isWritable last = true)
    (unstopped : machine.stop = none) {limit : Int} {paused : Machine}
    (meets : machine.MeetsLimit limit paused) {later : Option Int}
    (higher : ∀ last, later = some last → limit < last) {report : RunReport}
    (answers : machine.Answers later report) :
    paused.outbox <+: report.machine.outbox ∧ report.ShowsOutbox later := by
  obtain ⟨walks, instruction, current⟩ := (meetsLimit_iff unstopped).mp meets
  by_cases behind : limit ≤ machine.steps
  · -- Such a limit leaves no step to take.
    rw [Int.toNat_of_nonpos (by omega)] at walks
    cases walks
    exact keeps.outbox_of_answers wellFormed short unstopped answers
  · have running := walks.unstopped unstopped current
    have counted := walks.steps_eq
    have allows : Allows later paused.steps := by
      intro last given
      have above := higher last given
      omega
    rw [answers_iff_of_walksTo unstopped walks running allows] at answers
    exact (keeps.walksTo wellFormed walks).outbox_of_answers wellFormed short running answers

/-- The steps of a run that returns are counted exactly if they lead to the end and the last of them
is the halt, if there is one. Each limit from their number on changes nothing, and each lower one is
met. -/
structure ReturnsExactly (machine : Machine) (output : List Box) (left : Machine) : Prop where
  steps : ∃ last, WalksTo left.steps machine last ∧ last.current? = none ∧ left = last.finish
  halt : left.stop = some .halt → ∃ earlier before instruction, left.steps = earlier + 1 ∧
    WalksTo earlier machine before ∧ before.current? = some instruction ∧
    instruction.opcode = .inbox ∧ before.inbox = []
  enough : ∀ limit : Int, left.steps ≤ limit.toNat →
    machine.Answers (some limit) ⟨.returned output, left⟩
  below : ∀ limit : Int, limit.toNat < left.steps → ∃ paused, machine.MeetsLimit limit paused

/-- The steps of a run that faults are counted exactly if they lead to the fault. Each limit above
their number changes nothing, and each other one is met. -/
structure FaultsExactly (machine : Machine) (fault : Fault) (left : Machine) : Prop where
  steps : WalksTo left.steps machine left
  enough : ∀ limit : Int, left.steps < limit.toNat →
    machine.Answers (some limit) ⟨.faulted fault, left⟩
  below : ∀ limit : Int, limit.toNat ≤ left.steps → ∃ paused, machine.MeetsLimit limit paused

/-- A run is interrupted exactly if it has taken the steps of the limit and stands at the instruction
that would come next. The outboxes of all runs with a higher limit begin with its own, and they are
shown. -/
structure PausesExactly (machine : Machine) (limit : Int) (reached : LimitReached)
    (paused : Machine) : Prop where
  tells : reached = ⟨limit, paused.position, paused.outbox⟩
  steps : WalksTo limit.toNat machine paused
  counted : paused.steps = limit.toNat
  next : ∃ instruction, machine.program.instructions[paused.position]? = some instruction
  output : ∀ later report, (∀ last, later = some last → limit < last) →
    machine.Answers later report →
    reached.output <+: report.machine.outbox ∧ report.ShowsOutbox later

theorem returnsExactly (unstopped : machine.stop = none) (fresh : machine.steps = 0)
    {output : List Box} (answers : machine.Answers none ⟨.returned output, left⟩) :
    machine.ReturnsExactly output left := by
  obtain ⟨-, patience, ran⟩ := id answers
  cases (run_eq_iff unstopped).mp ran with
  | @returned _ count last _ walks behind =>
      have counted : last.finish.steps = count := by
        have total := walks.steps_eq
        rwa [fresh, Nat.zero_add] at total
      refine ⟨⟨last, by rwa [counted], behind, rfl⟩, ?_, fun limit enough => ?_,
        fun limit below => ?_⟩
      · intro halted
        rw [counted]
        exact walks.exists_before_halt unstopped (stop_of_finish halted)
      · exact answers_returned_of_within unstopped answers (by omega)
      · exact walks.meetsLimit unstopped (by omega)

theorem faultsExactly (unstopped : machine.stop = none) (fresh : machine.steps = 0) {fault : Fault}
    (answers : machine.Answers none ⟨.faulted fault, left⟩) :
    machine.FaultsExactly fault left := by
  obtain ⟨-, patience, ran⟩ := id answers
  cases (run_eq_iff unstopped).mp ran with
  | @faulted _ count _ _ _ _ walks fails =>
      have counted : left.steps = count := by
        rw [walks.steps_eq, fresh, Nat.zero_add]
      refine ⟨by rwa [counted], fun limit above => ?_, fun limit below => ?_⟩
      · exact answers_faulted_of_within unstopped answers (by omega)
      · by_cases last : (limit - machine.steps).toNat = count
        · -- The run stops in front of the step that would fail.
          rw [← last] at walks
          exact ⟨left, (meetsLimit_iff unstopped).mpr ⟨walks, _, fails.1⟩⟩
        · exact walks.meetsLimit unstopped (by omega)

theorem pausesExactly (keeps : machine.KeepsTo program bound) (wellFormed : program.WellFormed)
    (short : ∀ last, bound = some last → Numeral.isWritable last = true)
    (unstopped : machine.stop = none) (fresh : machine.steps = 0) {limit : Int}
    {reached : LimitReached} {paused : Machine}
    (answers : machine.Answers (some limit) ⟨.limitReached reached, paused⟩) :
    machine.PausesExactly limit reached paused := by
  obtain ⟨meets, rfl⟩ := meetsLimit_of_limitReached unstopped answers
  obtain ⟨walks, instruction, current⟩ := (meetsLimit_iff unstopped).mp meets
  have counted := walks.steps_eq
  have total : (limit - machine.steps).toNat = limit.toNat := by
    rw [fresh]
    omega
  have next : machine.program.instructions[paused.position]? = some instruction := by
    rw [keeps.runs, ← (keeps.walksTo wellFormed walks).runs]
    exact current
  rw [total] at walks counted
  exact ⟨rfl, walks, by omega, ⟨instruction, next⟩, fun later report higher laterAnswers =>
    meets.output_prefix keeps wellFormed short unstopped higher laterAnswers⟩

end OfficeMachine.Machine
