/-
This file follows a machine through a session of runs and feeds. The machine stays inside its
program and on its floor, and each run ends in one of the ways that a run may end.
-/

import OfficeMachine.Proofs.Floor.Layout
import OfficeMachine.Proofs.Machine.Failures
import OfficeMachine.Proofs.Machine.Runs
import OfficeMachine.Proofs.Script.Acceptance

namespace OfficeMachine

/-- A user runs a machine or feeds it. A run without a limit may be watched without an end, so the
session also comes through the machines in the middle of a run. -/
inductive Request where
  | run (limit : Option Int) (patience : Nat)
  | feed (boxes : List Box)

namespace Machine

def serve (machine : Machine) : Request → Machine
  | .run limit patience => (machine.run limit patience).machine
  | .feed boxes => machine.feed boxes

/-- A machine is reachable with a program and a bound if it was built with them and then served
requests. -/
inductive Reachable (program : Program) (bound : Option Int) : Machine → Prop
  | build {initial : Table Int Box} {inbox : List Box} {machine : Machine}
      (built : Machine.build program initial inbox bound = .ok machine) :
      Reachable program bound machine
  | serve {machine : Machine} (reachable : Reachable program bound machine) (request : Request) :
      Reachable program bound (machine.serve request)

/-- A machine keeps to a program and a bound if it has them, stands inside the program and stops
only behind it. -/
structure KeepsTo (program : Program) (bound : Option Int) (machine : Machine) : Prop where
  runs : machine.program = program
  bounded : machine.floor.bound.map Int.ofNat = bound
  inside : machine.position ≤ program.size
  stopped : machine.stop ≠ none → machine.position = program.size

section Build

variable {program : Program} {initial : Table Int Box} {inbox : List Box} {bound : Option Int}
variable {machine : Machine}

/-- A machine is built exactly if its floor can be laid out. -/
theorem build_eq_ok_iff :
    build program initial inbox bound = .ok machine ↔
      ∃ floor : Floor, floor.bound.map Int.ofNat = bound ∧ floor.Holds initial ∧
        start program floor inbox = machine := by
  simp only [build, map_eq_ok_iff, Floor.lay_eq_ok_iff, and_assoc]

theorem keepsTo_of_build (built : build program initial inbox bound = .ok machine) :
    machine.KeepsTo program bound := by
  obtain ⟨floor, sameBound, -, same⟩ := build_eq_ok_iff.mp built
  rw [← same]
  exact ⟨rfl, sameBound, Nat.zero_le _, fun stopped => absurd rfl stopped⟩

end Build

section KeepsTo

variable {program : Program} {bound : Option Int} {machine next : Machine}

/-- A machine with a current instruction has not stopped. -/
theorem KeepsTo.running (keeps : machine.KeepsTo program bound) {instruction : Instruction}
    (current : machine.current? = some instruction) :
    machine.stop = none ∧ machine.position < program.size ∧
      instruction ∈ program.instructions.toList := by
  obtain ⟨same, -, -, stopped⟩ := keeps
  have member := mem_of_current current
  unfold current? at current
  rw [same] at current member
  obtain ⟨inside, -⟩ := Array.getElem?_eq_some_iff.mp current
  refine ⟨?_, inside, member⟩
  apply Decidable.byContradiction
  intro stop
  exact absurd (stopped stop) (Nat.ne_of_lt inside)

theorem KeepsTo.suits (keeps : machine.KeepsTo program bound) (wellFormed : program.WellFormed)
    {instruction : Instruction} (current : machine.current? = some instruction) :
    instruction.Suits program.size :=
  wellFormed instruction (keeps.running current).2.2

/-- A machine without a current instruction stands at the end. -/
theorem KeepsTo.at_end (keeps : machine.KeepsTo program bound)
    (behind : machine.current? = none) : machine.position = program.size := by
  unfold current? at behind
  rw [keeps.runs, Array.getElem?_eq_none_iff] at behind
  exact Nat.le_antisymm keeps.inside behind

/-- A step keeps to the program and the bound. -/
theorem KeepsTo.stepsTo (keeps : machine.KeepsTo program bound) (wellFormed : program.WellFormed)
    (steps : machine.StepsTo next) : next.KeepsTo program bound := by
  obtain ⟨instruction, current, sameProgram, sameBound, -, -, place⟩ := steps.movesTo
  obtain ⟨unstopped, inside, -⟩ := keeps.running current
  have atEnd : machine.halted.position = program.size := congrArg Program.size keeps.runs
  refine ⟨sameProgram.trans keeps.runs, by rw [sameBound, keeps.bounded], ?_, ?_⟩
  · rcases place with ⟨-, forward | jumped⟩ | ⟨-, -, halted⟩
    · omega
    · exact (keeps.suits wellFormed current).target_le jumped
    · exact Nat.le_of_eq (by rw [halted, atEnd])
  · intro stopped
    rcases place with ⟨same, -⟩ | ⟨-, -, halted⟩
    · rw [same] at stopped
      exact absurd unstopped stopped
    · rw [halted, atEnd]

theorem KeepsTo.walksTo (keeps : machine.KeepsTo program bound) (wellFormed : program.WellFormed)
    {count : Nat} (walks : WalksTo count machine next) : next.KeepsTo program bound := by
  induction walks with
  | stay machine => exact keeps
  | step first _ inductionHypothesis => exact inductionHypothesis (keeps.stepsTo wellFormed first)

theorem KeepsTo.feed (keeps : machine.KeepsTo program bound) (boxes : List Box) :
    (machine.feed boxes).KeepsTo program bound :=
  ⟨keeps.runs, keeps.bounded, keeps.inside, keeps.stopped⟩

theorem KeepsTo.finish (keeps : machine.KeepsTo program bound)
    (behind : machine.current? = none) : machine.finish.KeepsTo program bound :=
  ⟨keeps.runs, keeps.bounded, keeps.inside, fun _ => keeps.at_end behind⟩

end KeepsTo

section Run

variable {program : Program} {bound : Option Int} {machine : Machine}

theorem KeepsTo.run (keeps : machine.KeepsTo program bound) (wellFormed : program.WellFormed)
    (limit : Option Int) (patience : Nat) :
    (machine.run limit patience).machine.KeepsTo program bound := by
  cases stop : machine.stop with
  | some reason =>
      rw [run_of_stopped stop]
      exact keeps
  | none =>
      obtain ⟨count, left, walks, same | ⟨behind, same⟩⟩ :=
        (reports_run stop limit patience).exists_walksTo
      · rw [same]
        exact keeps.walksTo wellFormed walks
      · rw [same]
        exact (keeps.walksTo wellFormed walks).finish behind

theorem KeepsTo.serve (keeps : machine.KeepsTo program bound) (wellFormed : program.WellFormed)
    (request : Request) : (machine.serve request).KeepsTo program bound := by
  cases request with
  | feed boxes => exact keeps.feed boxes
  | run limit patience => exact keeps.run wellFormed limit patience

/-- Every reachable machine keeps to the program and the bound. -/
theorem Reachable.keepsTo (reachable : Reachable program bound machine)
    (wellFormed : program.WellFormed) : machine.KeepsTo program bound := by
  induction reachable with
  | build built => exact keepsTo_of_build built
  | serve _ request inductionHypothesis => exact inductionHypothesis.serve wellFormed request

end Run

end Machine

/-- A valid box holds a signed 32-bit number or a capital letter. -/
def Box.IsValid : Box → Prop
  | .number content => -2147483648 ≤ content.value ∧ content.value ≤ 2147483647
  | .letter content => 'A' ≤ content.character ∧ content.character ≤ 'Z'

theorem Box.isValid (box : Box) : box.IsValid := by
  cases box with
  | number content => exact ⟨content.atLeast, content.atMost⟩
  | letter content => exact ⟨content.atLeast, content.atMost⟩

namespace Machine

/-- A safe machine stands at an instruction with the operand that it needs or at the end. All of its
boxes are valid, and all of its occupied tiles lie on the floor. -/
structure IsSafe (program : Program) (bound : Option Int) (machine : Machine) : Prop where
  position : machine.position ≤ program.size
  fetch : machine.position < program.size → ∃ instruction ∈ program.instructions.toList,
    machine.current? = some instruction ∧ instruction.Suits program.size
  hand : ∀ box, machine.hand = some box → box.IsValid
  inbox : ∀ box ∈ machine.inbox, box.IsValid
  outbox : ∀ box ∈ machine.outbox, box.IsValid
  tiles : ∀ address box, (address, box) ∈ machine.floor.snapshot →
    box.IsValid ∧ 0 ≤ (address : Int) ∧ ∀ last, bound = some last → (address : Int) ≤ last

/-- A regular report returns the outbox, raises a fault whose text can be written or tells a limit that
can be written. A run that is still going on has no limit. -/
def IsRegular (program : Program) (limit : Option Int) (report : RunReport) : Prop :=
  match report.outcome with
  | .returned output => output = report.machine.outbox ∧ report.machine.stop ≠ none
  | .faulted fault => ∃ instruction cause, report.machine.current? = some instruction ∧
      instruction.Suits program.size ∧ cause.IsWritable ∧
      fault = report.machine.faultAt instruction cause
  | .limitReached reached => limit = some reached.limit ∧
      Numeral.isWritable reached.limit = true ∧
      reached.position = report.machine.position ∧ reached.output = report.machine.outbox
  | .unfinished => limit = none
  | .noTile | .unwritableLimit | .alreadyStopped => False

/-- A machine meets an overlong limit if the limit has too many digits to be written and its steps
lead to an instruction. -/
def MeetsOverlong (machine : Machine) (limit : Option Int) : Prop :=
  ∃ last left instruction, limit = some last ∧ Numeral.isWritable last = false ∧
    WalksTo (last - machine.steps).toNat machine left ∧ left.current? = some instruction

variable {program : Program} {bound : Option Int} {machine : Machine}

theorem KeepsTo.covered (keeps : machine.KeepsTo program bound) {address : Nat} {last : Int}
    (covered : covers machine.floor.bound address = true) (given : bound = some last) :
    (address : Int) ≤ last := by
  have bounded := keeps.bounded
  rw [given] at bounded
  obtain ⟨limit, floorBound, same⟩ := Option.map_eq_some_iff.mp bounded
  rw [floorBound] at covered
  rw [← same]
  exact Int.ofNat_le.mpr (of_decide_eq_true covered)

theorem KeepsTo.isSafe (keeps : machine.KeepsTo program bound) (wellFormed : program.WellFormed) :
    machine.IsSafe program bound where
  position := keeps.inside
  fetch := by
    intro inside
    cases current : machine.current? with
    | none => exact absurd (keeps.at_end current) (Nat.ne_of_lt inside)
    | some instruction =>
        exact ⟨instruction, (keeps.running current).2.2, rfl, keeps.suits wellFormed current⟩
  hand := fun box _ => box.isValid
  inbox := fun box _ => box.isValid
  outbox := fun box _ => box.isValid
  tiles := by
    intro address box member
    refine ⟨box.isValid, Int.natCast_nonneg address, ?_⟩
    intro last given
    rw [Floor.snapshot, Std.ExtTreeMap.mem_toList_iff_getElem?_eq_some] at member
    have occupied : address ∈ machine.floor.tiles :=
      Std.ExtTreeMap.mem_iff_isSome_getElem?.mpr (by rw [member]; rfl)
    exact keeps.covered (machine.floor.covered address occupied) given

theorem KeepsTo.boundIsWritable (keeps : machine.KeepsTo program bound)
    (short : ∀ last, bound = some last → Numeral.isWritable last = true) :
    boundIsWritable machine.floor.bound := by
  intro last given
  apply short
  rw [← keeps.bounded, given]
  rfl

/-- A failing step of a well-formed program fails with a proper fault. -/
theorem KeepsTo.isFault (keeps : machine.KeepsTo program bound) (wellFormed : program.WellFormed)
    (short : ∀ last, bound = some last → Numeral.isWritable last = true)
    {instruction : Instruction} {error : StepError} (fails : machine.FailsAt instruction error) :
    error.IsFault := by
  obtain ⟨current, failed⟩ := failsAt_iff.mp fails
  exact effect_fails (keeps.suits wellFormed current) (keeps.boundIsWritable short) error failed

/-- The report of a run fails exactly if the run meets an overlong limit. -/
theorem run_eq_unwritableLimit_iff (unstopped : machine.stop = none) {limit : Option Int}
    {patience : Nat} :
    (machine.run limit patience).outcome = .unwritableLimit ↔ machine.MeetsOverlong limit := by
  constructor
  · intro failed
    obtain ⟨report, ran, reports⟩ := exists_reports unstopped limit patience
    rw [ran] at failed
    cases reports with
    | returned _ _ _ => cases failed
    | faulted _ _ _ => cases failed
    | noTile _ _ _ => cases failed
    | unfinished _ _ => cases failed
    | limitReached _ _ _ => cases failed
    | unwritableLimit walks current overlong => exact ⟨_, _, _, rfl, overlong, walks, current⟩
  · rintro ⟨last, left, instruction, rfl, overlong, walks, current⟩
    rw [(run_eq_iff unstopped).mpr (.unwritableLimit walks current overlong)]

/-- A run of a well-formed program is regular as long as its report can be written. -/
theorem KeepsTo.isRegular_iff (keeps : machine.KeepsTo program bound)
    (wellFormed : program.WellFormed)
    (short : ∀ last, bound = some last → Numeral.isWritable last = true)
    (unstopped : machine.stop = none) (limit : Option Int) (patience : Nat) :
    IsRegular program limit (machine.run limit patience) ↔
      (machine.run limit patience).outcome ≠ .unwritableLimit := by
  obtain ⟨report, ran, reports⟩ := exists_reports unstopped limit patience
  rw [ran]
  cases reports with
  | returned _ _ _ => exact iff_of_true ⟨rfl, Option.some_ne_none _⟩ nofun
  | @faulted _ _ left instruction cause _ walks fails =>
      have reached := keeps.walksTo wellFormed walks
      obtain ⟨_, same, writable⟩ := reached.isFault wellFormed short fails
      cases same
      have suits := reached.suits wellFormed fails.1
      exact iff_of_true ⟨instruction, cause, fails.1, suits, writable, rfl⟩ nofun
  | noTile _ walks fails =>
      obtain ⟨_, same, -⟩ := (keeps.walksTo wellFormed walks).isFault wellFormed short fails
      cases same
  | limitReached _ _ writable => exact iff_of_true ⟨rfl, writable, rfl, rfl⟩ nofun
  | unwritableLimit _ _ _ => exact iff_of_false id fun differs => differs rfl
  | unfinished _ _ => exact iff_of_true rfl nofun

/-- An overlong limit that leaves no step is met at once. -/
theorem meetsOverlong_of_le {limit : Int} (overlong : Numeral.isWritable limit = false)
    (behind : limit ≤ machine.steps) {instruction : Instruction}
    (current : machine.current? = some instruction) : machine.MeetsOverlong (some limit) := by
  refine ⟨limit, machine, instruction, rfl, overlong, ?_, current⟩
  rw [Int.toNat_of_nonpos (by omega)]
  exact .stay machine

/-- Every machine that is reachable with the program of a script is safe. Each run of it that has an
end returns the outbox, faults or tells its limit, except exactly where it meets a limit that is too
long to be written. -/
theorem reachable_sound {source : String} {program : Program} {bound : Option Int}
    {machine : Machine} (accepted : Script.read source = .ok program)
    (short : ∀ last, bound = some last → Numeral.isWritable last = true)
    (reachable : Reachable program bound machine) :
    machine.IsSafe program bound ∧
      (machine.stop = none → ∀ limit patience,
        (IsRegular program limit (machine.run limit patience) ↔ ¬machine.MeetsOverlong limit) ∧
        ((machine.run limit patience).outcome = .unwritableLimit ↔
          machine.MeetsOverlong limit)) := by
  have wellFormed := Script.wellFormed_of_read accepted
  have keeps := reachable.keepsTo wellFormed
  refine ⟨keeps.isSafe wellFormed, ?_⟩
  intro unstopped limit patience
  have failed : (machine.run limit patience).outcome = .unwritableLimit ↔
      machine.MeetsOverlong limit := run_eq_unwritableLimit_iff unstopped
  rw [keeps.isRegular_iff wellFormed short unstopped limit patience, Ne, failed]
  exact ⟨Iff.rfl, Iff.rfl⟩

/-- This script adds the number on the first tile to each box of the inbox. -/
def adder : String := "start:\n    INBOX\n    ADD 0\n    OUTBOX\n    JUMP start"

def adderProgram : Program where
  instructions := #[
    { opcode := .inbox, line := 2 },
    { opcode := .add, address := some ⟨0, false⟩, line := 3 },
    { opcode := .outbox, line := 4 },
    { opcode := .jump, target := some 0, line := 5 }]
  labels := ⟨[("start", 0)], by decide⟩

theorem read_adder : Script.read adder = .ok adderProgram := by
  decide +kernel

def five : Box := .number ⟨5, by decide, by decide⟩

/-- The second box of the inbox is a letter, to which no number can be added. -/
def adderInbox : List Box := [five, .letter ⟨'A', by decide, by decide⟩]

def adderMachine : Machine :=
  start adderProgram ((Floor.bare (some 0)).put ⟨0, by decide⟩ five) adderInbox

theorem build_adder :
    build adderProgram ⟨[(0, five)], by decide⟩ adderInbox (some 0) = .ok adderMachine := rfl

theorem isWritable_adder_bound (last : Int) (given : some 0 = some last) :
    Numeral.isWritable last = true := by
  rw [← Option.some.inj given]
  decide +kernel

theorem reachable_sound_adder :
    ((adderMachine.serve (.run (some 2) 0)).serve (.feed [five])).IsSafe adderProgram (some 0) ∧
      IsRegular adderProgram none
        (((adderMachine.serve (.run (some 2) 0)).serve (.feed [five])).run none 4) := by
  have reachable : Reachable adderProgram (some 0)
      ((adderMachine.serve (.run (some 2) 0)).serve (.feed [five])) :=
    .serve (.serve (.build build_adder) (.run (some 2) 0)) (.feed [five])
  obtain ⟨safe, runs⟩ := reachable_sound read_adder isWritable_adder_bound reachable
  refine ⟨safe, (runs rfl none 4).1.mpr ?_⟩
  rintro ⟨_, _, _, unlimited, -⟩
  cases unlimited

/-- This limit is negative and has one digit too many. -/
def overlongLimit : Int := -(Nat.pow 10 Numeral.digitLimit : Nat)

/-- The first limit of a new machine may be overlong, and then the run tells nothing. -/
theorem not_regular_overlongLimit :
    Script.read adder = .ok adderProgram ∧ Reachable adderProgram (some 0) adderMachine ∧
      adderMachine.stop = none ∧
      (adderMachine.run (some overlongLimit) 0).outcome = .unwritableLimit ∧
      ¬IsRegular adderProgram (some overlongLimit) (adderMachine.run (some overlongLimit) 0) := by
  have overlong : Numeral.isWritable overlongLimit = false := by decide +kernel
  -- The size is a variable here, so that nobody computes the power.
  have negative (size : Nat) : -(size : Int) ≤ adderMachine.steps := by omega
  have meets : adderMachine.MeetsOverlong (some overlongLimit) :=
    meetsOverlong_of_le overlong (negative _) rfl
  have failed : (adderMachine.run (some overlongLimit) 0).outcome = .unwritableLimit :=
    (run_eq_unwritableLimit_iff rfl).mpr meets
  refine ⟨read_adder, .build build_adder, rfl, failed, ?_⟩
  unfold IsRegular
  rw [failed]
  exact id

end Machine

end OfficeMachine
