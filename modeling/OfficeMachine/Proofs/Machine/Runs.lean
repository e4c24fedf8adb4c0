/-
This file relates runs to walks. The report of a run tells how far its steps succeeded and why it went
no further, and it is determined by that.
-/

import OfficeMachine.Proofs.Machine.Walks

namespace OfficeMachine.Machine

/-- A run that is still going on has reached its limit, or it has none. -/
def pauseOutcome (limit : Option Int) (paused : Machine) : RunOutcome :=
  match limit with
  | some limit => paused.atLimit limit
  | none => .unfinished

theorem atLimit_of_isWritable {limit : Int} (writable : Numeral.isWritable limit = true)
    (machine : Machine) :
    machine.atLimit limit = .limitReached ⟨limit, machine.position, machine.outbox⟩ :=
  if_pos writable

theorem atLimit_of_not_isWritable {limit : Int} (overlong : Numeral.isWritable limit = false)
    (machine : Machine) : machine.atLimit limit = .unwritableLimit :=
  if_neg (by rw [overlong]; exact Bool.false_ne_true)

/-- The limit allows a run the steps that were not yet taken. -/
def allowance (machine : Machine) (limit : Option Int) (patience : Nat) : Nat :=
  match limit with
  | some limit => (limit - machine.steps).toNat
  | none => patience

variable {machine left : Machine}

theorem run_of_unstopped (unstopped : machine.stop = none) (limit : Option Int) (patience : Nat) :
    machine.run limit patience =
      report (pauseOutcome limit) (machine.walk (machine.allowance limit patience)) := by
  unfold run
  rw [unstopped]
  cases limit <;> rfl

theorem run_of_stopped {reason : Stop} (stopped : machine.stop = some reason)
    (limit : Option Int) (patience : Nat) :
    machine.run limit patience = ⟨.alreadyStopped, machine⟩ := by
  unfold run
  rw [stopped]

/-- A report suits a machine if its steps lead to what the report says. A run faults within its
allowance, and a run that uses its allowance up is still at an instruction. -/
inductive Reports (machine : Machine) (patience : Nat) : Option Int → RunReport → Prop
  | returned {limit : Option Int} {count : Nat} {left : Machine}
      (within : count ≤ machine.allowance limit patience) (walks : WalksTo count machine left)
      (behind : left.current? = none) :
      Reports machine patience limit ⟨.returned left.outbox, left.finish⟩
  | faulted {limit : Option Int} {count : Nat} {left : Machine} {instruction : Instruction}
      {cause : Cause} (within : count < machine.allowance limit patience)
      (walks : WalksTo count machine left) (fails : left.FailsAt instruction (.fault cause)) :
      Reports machine patience limit ⟨.faulted (left.faultAt instruction cause), left⟩
  | noTile {limit : Option Int} {count : Nat} {left : Machine} {instruction : Instruction}
      (within : count < machine.allowance limit patience) (walks : WalksTo count machine left)
      (fails : left.FailsAt instruction .noTile) :
      Reports machine patience limit ⟨.noTile, left⟩
  | limitReached {limit : Int} {left : Machine} {instruction : Instruction}
      (walks : WalksTo (limit - machine.steps).toNat machine left)
      (current : left.current? = some instruction)
      (writable : Numeral.isWritable limit = true) :
      Reports machine patience (some limit)
        ⟨.limitReached ⟨limit, left.position, left.outbox⟩, left⟩
  | unwritableLimit {limit : Int} {left : Machine} {instruction : Instruction}
      (walks : WalksTo (limit - machine.steps).toNat machine left)
      (current : left.current? = some instruction)
      (overlong : Numeral.isWritable limit = false) :
      Reports machine patience (some limit) ⟨.unwritableLimit, left⟩
  | unfinished {left : Machine} {instruction : Instruction}
      (walks : WalksTo patience machine left) (current : left.current? = some instruction) :
      Reports machine patience none ⟨.unfinished, left⟩

/-- A machine that is still at an instruction when its limit is met tells the limit if it can. -/
theorem Reports.atLimit {limit : Int} {patience : Nat} {instruction : Instruction}
    (walks : WalksTo (limit - machine.steps).toNat machine left)
    (current : left.current? = some instruction) :
    machine.Reports patience (some limit) ⟨left.atLimit limit, left⟩ := by
  cases writable : Numeral.isWritable limit with
  | true =>
      rw [atLimit_of_isWritable writable]
      exact .limitReached walks current writable
  | false =>
      rw [atLimit_of_not_isWritable writable]
      exact .unwritableLimit walks current writable

/-- Every run reports the truth. -/
theorem reports_run (unstopped : machine.stop = none) (limit : Option Int) (patience : Nat) :
    machine.Reports patience limit (machine.run limit patience) := by
  obtain ⟨walk, same, tells⟩ := machine.exists_tells (machine.allowance limit patience)
  rw [run_of_unstopped unstopped, same]
  cases tells with
  | ended within walks behind => exact .returned within walks behind
  | @failed count left instruction error within walks fails =>
      cases error with
      | noTile => exact .noTile within walks fails
      | fault cause => exact .faulted within walks fails
  | going walks current =>
      cases limit with
      | some limit => exact .atLimit walks current
      | none => exact .unfinished walks current

theorem exists_reports (unstopped : machine.stop = none) (limit : Option Int) (patience : Nat) :
    ∃ report, machine.run limit patience = report ∧ machine.Reports patience limit report :=
  ⟨_, rfl, reports_run unstopped limit patience⟩

/-- A machine that has not stopped runs to exactly the report that suits it. -/
theorem run_eq_iff (unstopped : machine.stop = none) {limit : Option Int} {patience : Nat}
    {report : RunReport} :
    machine.run limit patience = report ↔ machine.Reports patience limit report := by
  constructor
  · intro same
    rw [← same]
    exact reports_run unstopped limit patience
  · intro reports
    rw [run_of_unstopped unstopped]
    cases reports with
    | returned within walks behind =>
        obtain ⟨rest, split⟩ := Nat.exists_eq_add_of_le within
        rw [split, walk_of_walksTo walks, walk_of_ended behind]
        rfl
    | faulted within walks fails =>
        obtain ⟨rest, split⟩ := Nat.exists_eq_add_of_lt within
        rw [split, Nat.add_assoc, walk_of_walksTo walks, walk_of_failsAt fails]
        rfl
    | noTile within walks fails =>
        obtain ⟨rest, split⟩ := Nat.exists_eq_add_of_lt within
        rw [split, Nat.add_assoc, walk_of_walksTo walks, walk_of_failsAt fails]
        rfl
    | limitReached walks current writable =>
        rw [allowance, walk_of_going walks current, ← atLimit_of_isWritable writable]
        rfl
    | unwritableLimit walks current overlong =>
        rw [allowance, walk_of_going walks current, ← atLimit_of_not_isWritable overlong]
        rfl
    | unfinished walks current => exact congrArg (Machine.report _) (walk_of_going walks current)

/-- A run leaves a machine that it walked to, and finishes it if that one is behind its program. -/
theorem Reports.exists_walksTo {limit : Option Int} {patience : Nat} {report : RunReport}
    (reports : machine.Reports patience limit report) :
    ∃ count left, WalksTo count machine left ∧
      (report.machine = left ∨ left.current? = none ∧ report.machine = left.finish) := by
  cases reports with
  | returned _ walks behind => exact ⟨_, _, walks, Or.inr ⟨behind, rfl⟩⟩
  | faulted _ walks _ => exact ⟨_, _, walks, Or.inl rfl⟩
  | noTile _ walks _ => exact ⟨_, _, walks, Or.inl rfl⟩
  | limitReached walks _ _ => exact ⟨_, _, walks, Or.inl rfl⟩
  | unwritableLimit walks _ _ => exact ⟨_, _, walks, Or.inl rfl⟩
  | unfinished walks _ => exact ⟨_, _, walks, Or.inl rfl⟩

end OfficeMachine.Machine
