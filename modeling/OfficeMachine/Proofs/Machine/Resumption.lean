/-
This file shows that a run may be cut into slices. A run that is taken up again goes on as if nothing
had interrupted it, and no run follows one that returned.
-/

import OfficeMachine.Proofs.Machine.Stability

namespace OfficeMachine

/-- A settled outcome is the end of the program or a fault. -/
def RunOutcome.isSettled : RunOutcome → Bool
  | .returned _ | .faulted _ => true
  | .noTile | .limitReached _ | .unwritableLimit | .alreadyStopped | .unfinished => false

/-- An interrupted run may be taken up again. -/
def RunOutcome.isInterrupted : RunOutcome → Bool
  | .faulted _ | .limitReached _ | .unwritableLimit => true
  | .returned _ | .noTile | .alreadyStopped | .unfinished => false

namespace Machine

variable {machine left : Machine} {count : Nat}

theorem isSettled_atLimit (machine : Machine) (limit : Int) :
    (machine.atLimit limit).isSettled = false := by
  unfold atLimit
  split <;> rfl

/-- A limit allows a count of steps if it is not below it. -/
def Allows (limit : Option Int) (steps : Nat) : Prop :=
  ∀ last, limit = some last → (steps : Int) ≤ last

/-- A run goes through each machine that it walks to and goes on from there. -/
theorem run_of_walksTo (unstopped : machine.stop = none) (walks : WalksTo count machine left)
    (running : left.stop = none) {limit : Option Int} (allows : Allows limit left.steps)
    (patience : Nat) : machine.run limit (count + patience) = left.run limit patience := by
  have allowed :
      machine.allowance limit (count + patience) = count + left.allowance limit patience := by
    cases limit with
    | none => rfl
    | some last =>
        have enough := allows last rfl
        have counted := walks.steps_eq
        simp only [allowance]
        omega
  rw [run_of_unstopped unstopped, run_of_unstopped running, allowed, walk_of_walksTo walks]

/-- A report that somebody saw stays right for a more patient observer. -/
theorem Reports.of_more_patience {limit : Option Int} {patience : Nat} {report : RunReport}
    (reports : machine.Reports patience limit report) (ended : report.outcome ≠ .unfinished)
    (more : Nat) : machine.Reports (patience + more) limit report := by
  have allowed : machine.allowance limit patience ≤ machine.allowance limit (patience + more) := by
    cases limit with
    | none => exact Nat.le_add_right patience more
    | some last => exact Nat.le_refl _
  cases reports with
  | returned within walks behind => exact .returned (within.trans allowed) walks behind
  | faulted within walks fails => exact .faulted (within.trans_le allowed) walks fails
  | noTile within walks fails => exact .noTile (within.trans_le allowed) walks fails
  | limitReached walks current writable => exact .limitReached walks current writable
  | unwritableLimit walks current overlong => exact .unwritableLimit walks current overlong
  | unfinished walks current => exact absurd rfl ended

theorem run_of_more_patience (unstopped : machine.stop = none) {limit : Option Int} {patience : Nat}
    (ended : (machine.run limit patience).outcome ≠ .unfinished) (more : Nat) :
    machine.run limit (patience + more) = machine.run limit patience :=
  (run_eq_iff unstopped).mpr ((reports_run unstopped limit patience).of_more_patience ended more)

/-- A run answers with a report that somebody with enough patience comes to see. -/
def Answers (machine : Machine) (limit : Option Int) (report : RunReport) : Prop :=
  report.outcome ≠ .unfinished ∧ ∃ patience, machine.run limit patience = report

/-- All observers with enough patience see the same report. -/
theorem Answers.unique {limit : Option Int} {report other : RunReport}
    (first : machine.Answers limit report) (second : machine.Answers limit other) :
    report = other := by
  obtain ⟨ended, patience, same⟩ := first
  obtain ⟨otherEnded, otherPatience, otherSame⟩ := second
  cases stop : machine.stop with
  | some reason => rw [← same, ← otherSame, run_of_stopped stop, run_of_stopped stop]
  | none =>
      rw [← same] at ended ⊢
      rw [← otherSame] at otherEnded ⊢
      rw [← run_of_more_patience stop ended otherPatience,
        ← run_of_more_patience stop otherEnded patience, Nat.add_comm]

/-- A machine and one that it walks to answer alike. -/
theorem answers_iff_of_walksTo (unstopped : machine.stop = none)
    (walks : WalksTo count machine left) (running : left.stop = none) {limit : Option Int}
    (allows : Allows limit left.steps) (report : RunReport) :
    machine.Answers limit report ↔ left.Answers limit report := by
  constructor
  · rintro ⟨ended, patience, same⟩
    refine ⟨ended, patience, ?_⟩
    rw [← same] at ended
    rw [← run_of_walksTo unstopped walks running allows, Nat.add_comm,
      run_of_more_patience unstopped ended, same]
  · rintro ⟨ended, patience, same⟩
    refine ⟨ended, count + patience, ?_⟩
    rw [run_of_walksTo unstopped walks running allows, same]

/-- A run that reached its limit took the steps that the limit left, stands at an instruction and could
write the limit. -/
theorem walksTo_of_run_limitReached (unstopped : machine.stop = none) {limit : Int} {patience : Nat}
    {reached : LimitReached}
    (pauses : (machine.run (some limit) patience).outcome = .limitReached reached) :
    WalksTo (limit - machine.steps).toNat machine (machine.run (some limit) patience).machine ∧
      (∃ instruction, (machine.run (some limit) patience).machine.current? = some instruction) ∧
      Numeral.isWritable limit = true := by
  obtain ⟨⟨outcome, left⟩, ran, reports⟩ := exists_reports unstopped (some limit) patience
  rw [ran] at pauses ⊢
  cases pauses
  cases reports with
  | limitReached walks current writable => exact ⟨walks, ⟨_, current⟩, writable⟩

/-- A run that returns stops the machine. -/
theorem exists_stop_of_run_returned (unstopped : machine.stop = none) {limit : Option Int}
    {patience : Nat} {output : List Box}
    (returned : machine.run limit patience = ⟨.returned output, left⟩) :
    ∃ reason, left.stop = some reason := by
  cases (run_eq_iff unstopped).mp returned with
  | returned _ _ _ => exact ⟨_, rfl⟩

/-- Runs with the limits in their order all reach their limits and leave the last machine. -/
inductive Pauses : Machine → List Int → Machine → Prop
  | start (machine : Machine) : Pauses machine [] machine
  | run {machine paused : Machine} {limit : Int} {limits : List Int} {reached : LimitReached}
      {patience : Nat}
      (first : (machine.run (some limit) patience).outcome = .limitReached reached)
      (others : Pauses (machine.run (some limit) patience).machine limits paused) :
      Pauses machine (limit :: limits) paused

/-- The greatest limit alone decides how far the runs walk. -/
theorem Pauses.walksTo {limits : List Int} {paused : Machine} (pauses : Pauses machine limits paused)
    (unstopped : machine.stop = none) {greatest : Int} (isGreatest : limits.max? = some greatest) :
    WalksTo (greatest - machine.steps).toNat machine paused ∧
      ∃ instruction, paused.current? = some instruction := by
  induction pauses generalizing greatest with
  | start machine => cases isGreatest
  | @run machine paused limit limits reached patience first others inductionHypothesis =>
      obtain ⟨walks, ⟨instruction, current⟩, -⟩ := walksTo_of_run_limitReached unstopped first
      have running := walks.unstopped unstopped current
      have counted := walks.steps_eq
      rw [List.max?_cons] at isGreatest
      cases rest : limits.max? with
      | none =>
          rw [rest] at isGreatest
          rw [List.max?_eq_none_iff] at rest
          subst rest
          cases others
          rw [← Option.some.inj isGreatest]
          exact ⟨walks, instruction, current⟩
      | some others =>
          rw [rest] at isGreatest
          obtain ⟨further, present⟩ := inductionHypothesis running rest
          have split : (greatest - machine.steps).toNat =
              (limit - machine.steps).toNat +
                (others - (machine.run (some limit) patience).machine.steps).toNat := by
            have same : max limit others = greatest := Option.some.inj isGreatest
            omega
          rw [split]
          exact ⟨walks.trans further, present⟩

/-- Each limit that was told could be written. -/
theorem Pauses.isWritable {limits : List Int} {paused : Machine} (pauses : Pauses machine limits paused)
    (unstopped : machine.stop = none) : ∀ limit ∈ limits, Numeral.isWritable limit = true := by
  induction pauses with
  | start machine => exact nofun
  | run first _ inductionHypothesis =>
      obtain ⟨walks, ⟨_, current⟩, writable⟩ := walksTo_of_run_limitReached unstopped first
      have others := inductionHypothesis (walks.unstopped unstopped current)
      exact List.forall_mem_cons.mpr ⟨writable, others⟩

/-- A run that settles from a paused machine settles in the same way from the first one. -/
theorem Pauses.answers {limits : List Int} {paused : Machine} (pauses : Pauses machine limits paused)
    (unstopped : machine.stop = none) {limit : Option Int} {report : RunReport}
    (answers : paused.Answers limit report) (settled : report.outcome.isSettled = true) :
    machine.Answers limit report := by
  cases greatest : limits.max? with
  | none =>
      rw [List.max?_eq_none_iff] at greatest
      subst greatest
      cases pauses
      exact answers
  | some last =>
      obtain ⟨walks, instruction, current⟩ := pauses.walksTo unstopped greatest
      have running := walks.unstopped unstopped current
      have allows : Allows limit paused.steps := by
        intro last given
        subst given
        obtain ⟨-, patience, same⟩ := answers
        by_cases enough : (paused.steps : Int) ≤ last
        · exact enough
        · -- A limit that is behind the machine only pauses it.
          have nothing : WalksTo (last - paused.steps).toNat paused paused := by
            rw [Int.toNat_of_nonpos (by omega)]
            exact .stay paused
          rw [← same, (run_eq_iff running).mpr (.atLimit nothing current)] at settled
          exact absurd settled (by simp [isSettled_atLimit])
      exact (answers_iff_of_walksTo unstopped walks running allows report).mpr answers

/-- A machine that has not stopped may be run in slices. Runs that all reach their limits leave the
machine of one run with the greatest of the limits, and a run that settles after them does the same
without them. A limit that is not above the count of steps changes nothing, and after a return every
further run is refused. -/
theorem run_in_slices (unstopped : machine.stop = none) :
    (∀ limits paused greatest, Pauses machine limits paused → limits.max? = some greatest →
      machine.Answers (some greatest)
        ⟨.limitReached ⟨greatest, paused.position, paused.outbox⟩, paused⟩) ∧
    (∀ limits paused limit report, Pauses machine limits paused → paused.Answers limit report →
      report.outcome.isSettled = true → machine.Answers limit report) ∧
    (∀ limit reached left, machine.Answers (some limit) ⟨.limitReached reached, left⟩ →
      limit ≤ machine.steps → left = machine) ∧
    ∀ limit output left, machine.Answers limit ⟨.returned output, left⟩ → ∀ later,
      left.serveAll later = left.feed (fedBoxes later) ∧
      ∀ further patience, (left.serveAll later).run further patience =
        ⟨.alreadyStopped, left.serveAll later⟩ := by
  refine ⟨?_, ?_, ?_, ?_⟩
  · intro limits paused greatest pauses isGreatest
    obtain ⟨walks, instruction, current⟩ := pauses.walksTo unstopped isGreatest
    have writable := pauses.isWritable unstopped greatest (List.max?_mem isGreatest)
    exact ⟨nofun, 0, (run_eq_iff unstopped).mpr (.limitReached walks current writable)⟩
  · intro limits paused limit report pauses answers settled
    exact pauses.answers unstopped answers settled
  · intro limit reached left answers behind
    obtain ⟨-, patience, same⟩ := answers
    obtain ⟨walks, -⟩ :=
      walksTo_of_run_limitReached unstopped (congrArg RunReport.outcome same)
    rw [Int.toNat_of_nonpos (by omega), same] at walks
    cases walks
    rfl
  · intro limit output left answers later
    obtain ⟨-, patience, same⟩ := answers
    obtain ⟨reason, stopped⟩ := exists_stop_of_run_returned unstopped same
    refine ⟨serveAll_of_stopped stopped later, ?_⟩
    intro further patience
    rw [serveAll_of_stopped stopped]
    have stillStopped : (left.feed (fedBoxes later)).stop = some reason := stopped
    exact run_of_stopped stillStopped further patience

/-- This machine was run with three limits, of which the second one was already behind it. -/
def pausedAdder : Machine :=
  adderMachine.serveAll [.run (some 2) 0, .run (some 1) 0, .run (some 3) 0]

theorem run_in_slices_adder :
    adderMachine.Answers (some 3)
      ⟨.limitReached ⟨3, 3, [.number ⟨10, by decide, by decide⟩]⟩, pausedAdder⟩ ∧
    adderMachine.Answers none
      ⟨.faulted (letterMachine.faultAt ⟨.add, some ⟨0, false⟩, none, 3⟩
        (.arithmetic (.cannotAdd (.letter ⟨'A', by decide, by decide⟩) five))), letterMachine⟩ := by
  have two : Numeral.isWritable 2 = true := by decide +kernel
  have one : Numeral.isWritable 1 = true := by decide +kernel
  have three : Numeral.isWritable 3 = true := by decide +kernel
  have pauses : Pauses adderMachine [2, 1, 3] pausedAdder :=
    .run (atLimit_of_isWritable two _)
      (.run (atLimit_of_isWritable one _) (.run (atLimit_of_isWritable three _) (.start _)))
  have unstopped : adderMachine.stop = none := rfl
  obtain ⟨paused, settled, -, -⟩ := run_in_slices unstopped
  refine ⟨paused _ _ 3 pauses rfl, settled _ _ _ _ pauses ?_ rfl⟩
  exact ⟨nofun, 5, rfl⟩

end Machine

end OfficeMachine
