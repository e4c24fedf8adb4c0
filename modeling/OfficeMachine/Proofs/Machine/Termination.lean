/-
This file shows that a program ends if all of its loops begin at the inbox. Each round takes a box, and
between two boxes the position only grows.
-/

import OfficeMachine.Proofs.Machine.Budget
import OfficeMachine.Proofs.Machine.Diagnosis

namespace OfficeMachine

/-- A program is driven by its inbox if each jump that does not lead forward leads to the opcode
INBOX. -/
def Program.IsDrivenByInbox (program : Program) : Prop :=
  ∀ (index : Nat) (_ : index < program.instructions.size),
    ∀ target ∈ program.instructions[index].target, target ≤ index →
      program.instructions[target]?.map Instruction.opcode = some .inbox

instance (program : Program) : Decidable program.IsDrivenByInbox :=
  inferInstanceAs (Decidable (∀ (index : Nat) (_ : index < program.instructions.size), _))

def Program.JumpsForward (program : Program) : Prop :=
  ∀ (index : Nat) (_ : index < program.instructions.size),
    ∀ target ∈ program.instructions[index].target, index < target

instance (program : Program) : Decidable program.JumpsForward :=
  inferInstanceAs (Decidable (∀ (index : Nat) (_ : index < program.instructions.size), _))

namespace Machine

/-- A machine ends by a count of steps if its run returns or faults then, and if no limit from this
count on changes that. -/
def EndsBy (machine : Machine) (count : Nat) : Prop :=
  ∃ report : RunReport, report.outcome.isSettled = true ∧ report.machine.steps ≤ count ∧
    machine.Answers none report ∧
    ∀ limit : Int, (count : Int) ≤ limit → machine.Answers (some limit) report

theorem EndsBy.mono {machine : Machine} {count more : Nat} (ends : machine.EndsBy count)
    (more_le : count ≤ more) : machine.EndsBy more := by
  obtain ⟨report, settled, within, answers, limited⟩ := ends
  exact ⟨report, settled, within.trans more_le, answers, fun limit enough =>
    limited limit (by omega)⟩

/-- A rank bounds the steps that are still to come if each step uses some of it up and something is
left in front of each instruction. -/
structure Ranks (program : Program) (bound : Option Int) (rank : Machine → Nat) : Prop where
  positive : ∀ {machine : Machine} {instruction : Instruction}, machine.KeepsTo program bound →
    machine.current? = some instruction → 0 < rank machine
  falls : ∀ {machine next : Machine}, machine.KeepsTo program bound → machine.StepsTo next →
    rank next < rank machine

section Ranks

variable {program : Program} {bound : Option Int} {rank : Machine → Nat} {machine left : Machine}

/-- A walk uses up as much as it has steps. -/
theorem Ranks.walksTo (ranks : Ranks program bound rank) (wellFormed : program.WellFormed)
    (keeps : machine.KeepsTo program bound) {count : Nat} (walks : WalksTo count machine left) :
    rank left + count ≤ rank machine := by
  induction walks with
  | stay machine => exact Nat.le_refl _
  | step first _ inductionHypothesis =>
      have behind := inductionHypothesis (keeps.stepsTo wellFormed first)
      have fallen := ranks.falls keeps first
      omega

/-- A machine ends when its rank is used up at the latest. -/
theorem Ranks.endsBy (ranks : Ranks program bound rank) (wellFormed : program.WellFormed)
    (short : ∀ last, bound = some last → Numeral.isWritable last = true)
    (keeps : machine.KeepsTo program bound) (unstopped : machine.stop = none) :
    machine.EndsBy (machine.steps + rank machine) := by
  obtain ⟨report, ran, reports⟩ := exists_reports unstopped none (rank machine)
  cases reports with
  | @returned _ count last within walks behind =>
      have answers : machine.Answers none ⟨.returned last.outbox, last.finish⟩ := ⟨nofun, _, ran⟩
      have counted : last.finish.steps = machine.steps + count := walks.steps_eq
      have used := ranks.walksTo wellFormed keeps walks
      refine ⟨_, rfl, ?_, answers, fun limit enough => ?_⟩
      · simp only [counted]
        omega
      · exact answers_returned_of_within unstopped answers (by omega)
  | @faulted _ count last instruction cause within walks fails =>
      have answers : machine.Answers none ⟨.faulted (last.faultAt instruction cause), last⟩ :=
        ⟨nofun, _, ran⟩
      have counted := walks.steps_eq
      have used := ranks.walksTo wellFormed keeps walks
      -- The step that fails is in the rank although it does not count.
      have unused := ranks.positive (keeps.walksTo wellFormed walks) fails.1
      refine ⟨_, rfl, ?_, answers, fun limit enough => ?_⟩
      · simp only [counted]
        omega
      · exact answers_faulted_of_within unstopped answers (by omega)
  | noTile _ walks fails =>
      obtain ⟨_, same, -⟩ := (keeps.walksTo wellFormed walks).isFault wellFormed short fails
      cases same
  | unfinished walks current =>
      have used := ranks.walksTo wellFormed keeps walks
      have unused := ranks.positive (keeps.walksTo wellFormed walks) current
      omega

end Ranks

/-- A step halts, takes a box, or leaves the inbox alone and goes on behind its instruction or at its
target. -/
inductive MovesOn (machine next : Machine) (instruction : Instruction) : Prop
  | halts (opcode : instruction.opcode = .inbox) (empty : machine.inbox = [])
      (behind : next.current? = none)
  | takes {box : Box} (opcode : instruction.opcode = .inbox)
      (inbox : machine.inbox = box :: next.inbox) (place : next.position = machine.position + 1)
  | goes (opcode : instruction.opcode ≠ .inbox) (inbox : next.inbox = machine.inbox)
      (place : next.position = machine.position + 1 ∨ instruction.target = some next.position)

section Steps

variable {program : Program} {bound : Option Int} {machine next : Machine}
variable {instruction : Instruction}

theorem Obeys.movesOn (obeys : machine.Obeys instruction next) :
    machine.MovesOn next instruction := by
  have goes {opcode : Opcode} (same : instruction.opcode = opcode) (other : opcode ≠ .inbox)
      (inbox : next.inbox = machine.inbox) (place : next.position = machine.position + 1 ∨
        instruction.target = some next.position) : machine.MovesOn next instruction :=
    .goes (same ▸ other) inbox place
  cases obeys with
  | takes opcode inbox => exact .takes opcode inbox rfl
  | halts opcode inbox => exact .halts opcode inbox (current?_halted machine)
  | ships opcode hand => exact goes opcode nofun rfl (Or.inl rfl)
  | copiesFrom opcode reads => exact goes opcode nofun rfl (Or.inl rfl)
  | copiesTo opcode hand finds updated => exact goes opcode nofun rfl (Or.inl rfl)
  | combines opcode reads computes =>
      rcases opcode with adds | subtracts
      · exact goes adds nofun rfl (Or.inl rfl)
      · exact goes subtracts nofun rfl (Or.inl rfl)
  | bumps opcode finds content computes updated =>
      rcases opcode with bumpsUp | bumpsDown
      · exact goes bumpsUp nofun rfl (Or.inl rfl)
      · exact goes bumpsDown nofun rfl (Or.inl rfl)
  | jumps opcode goal => exact goes opcode nofun rfl (Or.inr goal)
  | jumpsIfZero opcode hand zero goal => exact goes opcode nofun rfl (Or.inr goal)
  | passesNonzero opcode hand nonzero => exact goes opcode nofun rfl (Or.inl rfl)
  | jumpsIfNegative opcode hand negative goal => exact goes opcode nofun rfl (Or.inr goal)
  | passesNonnegative opcode hand nonnegative => exact goes opcode nofun rfl (Or.inl rfl)

theorem KeepsTo.movesOn (keeps : machine.KeepsTo program bound) (wellFormed : program.WellFormed)
    (steps : machine.StepsTo next) :
    ∃ instruction, machine.current? = some instruction ∧ machine.MovesOn next instruction := by
  obtain ⟨instruction, current, performed⟩ := steps
  have obeys := (effect_eq_ok_iff (keeps.suits wellFormed current)).mp
    (run_perform_eq_ok_iff.mp performed)
  exact ⟨instruction, current, obeys.movesOn⟩

/-- The target of the current instruction is one of the program. -/
theorem KeepsTo.target_mem (keeps : machine.KeepsTo program bound)
    (current : machine.current? = some instruction) {target : Nat}
    (goal : instruction.target = some target) :
    ∃ inside : machine.position < program.instructions.size,
      target ∈ program.instructions[machine.position].target := by
  have inside := (keeps.running current).2.1
  rw [current?, keeps.runs, Array.getElem?_eq_getElem inside] at current
  refine ⟨inside, ?_⟩
  rw [Option.some.inj current, goal]
  rfl

/-- A jump of a program that jumps forward does not come back. -/
theorem KeepsTo.position_lt (keeps : machine.KeepsTo program bound)
    (forward : program.JumpsForward) (current : machine.current? = some instruction)
    {target : Nat} (goal : instruction.target = some target) : machine.position < target := by
  obtain ⟨inside, jumps⟩ := keeps.target_mem current goal
  exact forward machine.position inside target jumps

/-- A jump of a program that is driven by its inbox leads forward or to the opcode INBOX. -/
theorem KeepsTo.position_lt_or_inbox (keeps : machine.KeepsTo program bound)
    (driven : program.IsDrivenByInbox) (current : machine.current? = some instruction)
    {target : Nat} (goal : instruction.target = some target) :
    machine.position < target ∨
      program.instructions[target]?.map Instruction.opcode = some .inbox := by
  obtain ⟨inside, jumps⟩ := keeps.target_mem current goal
  by_cases ahead : machine.position < target
  · exact Or.inl ahead
  · exact Or.inr (driven machine.position inside target jumps (Nat.le_of_not_lt ahead))

end Steps

/-- The rest of the program, and the whole program once more for each of the boxes. -/
def roundsFor (machine : Machine) (boxes : List Box) : Nat :=
  boxes.length * machine.program.size + (machine.program.size - machine.position)

/-- The steps ahead of a machine are counted without the box that it is about to take. -/
def stepsAhead (machine : Machine) : Nat :=
  match machine.current?.map Instruction.opcode, machine.inbox with
  | none, _ => 0
  | some .inbox, [] => 1
  | some .inbox, _ :: rest => machine.roundsFor rest + 1
  | some _, inbox => machine.roundsFor inbox + 1

section StepsAhead

variable {machine : Machine} {instruction : Instruction}

theorem stepsAhead_of_behind (behind : machine.current? = none) : machine.stepsAhead = 0 := by
  rw [stepsAhead, behind]
  rfl

theorem stepsAhead_of_other (current : machine.current? = some instruction)
    (other : instruction.opcode ≠ .inbox) :
    machine.stepsAhead = machine.roundsFor machine.inbox + 1 := by
  rw [stepsAhead, current, Option.map_some]
  split
  case h_1 none => cases none
  case h_2 same _ => exact absurd (Option.some.inj same) other
  case h_3 same _ => exact absurd (Option.some.inj same) other
  case h_4 => rfl

theorem stepsAhead_of_empty (takes : machine.current?.map Instruction.opcode = some .inbox)
    (empty : machine.inbox = []) : machine.stepsAhead = 1 := by
  rw [stepsAhead, takes, empty]

theorem stepsAhead_of_full (takes : machine.current?.map Instruction.opcode = some .inbox)
    {box : Box} {rest : List Box} (full : machine.inbox = box :: rest) :
    machine.stepsAhead = machine.roundsFor rest + 1 := by
  rw [stepsAhead, takes, full]

theorem stepsAhead_le (machine : Machine) :
    machine.stepsAhead ≤ machine.roundsFor machine.inbox + 1 := by
  unfold stepsAhead
  split
  case h_1 => exact Nat.zero_le _
  case h_2 => exact Nat.le_add_left 1 _
  case h_3 full =>
      rw [full, roundsFor, roundsFor, List.length_cons, Nat.succ_mul]
      omega
  case h_4 => exact Nat.le_refl _

/-- At the opcode INBOX the rest of the program is paid for by the box. -/
theorem stepsAhead_le_of_inbox (takes : machine.current?.map Instruction.opcode = some .inbox) :
    machine.stepsAhead ≤ machine.inbox.length * machine.program.size + 1 := by
  cases inbox : machine.inbox with
  | nil =>
      rw [stepsAhead_of_empty takes inbox]
      exact Nat.le_add_left 1 _
  | cons box rest =>
      rw [stepsAhead_of_full takes inbox, roundsFor, List.length_cons, Nat.succ_mul]
      omega

end StepsAhead

variable {program : Program} {bound : Option Int} {initial : Table Int Box} {inbox : List Box}
variable {machine : Machine}

/-- In a program that is driven by its inbox each step uses up some of the steps ahead. -/
theorem ranks_stepsAhead (wellFormed : program.WellFormed) (driven : program.IsDrivenByInbox) :
    Ranks program bound stepsAhead where
  positive := by
    intro machine instruction keeps current
    have takes : machine.current?.map Instruction.opcode = some instruction.opcode := by
      rw [current, Option.map_some]
    by_cases opcode : instruction.opcode = .inbox
    · rw [opcode] at takes
      cases inbox : machine.inbox with
      | nil => simp only [stepsAhead_of_empty takes inbox, Nat.one_pos]
      | cons box rest => simp only [stepsAhead_of_full takes inbox, Nat.succ_pos]
    · simp only [stepsAhead_of_other current opcode, Nat.succ_pos]
  falls := by
    intro machine next keeps steps
    obtain ⟨instruction, current, moves⟩ := keeps.movesOn wellFormed steps
    have inside := (keeps.running current).2.1
    have same := (keeps.stepsTo wellFormed steps).runs
    have takes (opcode : instruction.opcode = .inbox) :
        machine.current?.map Instruction.opcode = some .inbox := by
      rw [current, Option.map_some, opcode]
    have atMost := next.stepsAhead_le
    simp only [roundsFor, same] at atMost
    cases moves with
    | halts opcode empty behind =>
        rw [stepsAhead_of_behind behind, stepsAhead_of_empty (takes opcode) empty]
        exact Nat.one_pos
    | takes opcode full place =>
        rw [stepsAhead_of_full (takes opcode) full, roundsFor, keeps.runs]
        omega
    | goes opcode left place =>
        rw [stepsAhead_of_other current opcode, roundsFor, keeps.runs]
        rw [left] at atMost
        rcases place with behind | goal
        · omega
        · rcases keeps.position_lt_or_inbox driven current goal with ahead | back
          · omega
          · -- Back at the opcode INBOX the rest of the program is paid for by the next box.
            have arrives : next.current?.map Instruction.opcode = some .inbox := by
              rw [current?, same]
              exact back
            have paid := stepsAhead_le_of_inbox arrives
            rw [left, same] at paid
            omega

/-- In a program that jumps forward each step brings the end nearer. -/
theorem ranks_distance (wellFormed : program.WellFormed) (forward : program.JumpsForward) :
    Ranks program bound fun machine => program.size - machine.position where
  positive := fun keeps current => Nat.sub_pos_of_lt (keeps.running current).2.1
  falls := by
    intro machine next keeps steps
    obtain ⟨instruction, current, moves⟩ := keeps.movesOn wellFormed steps
    have inside := (keeps.running current).2.1
    cases moves with
    | halts opcode empty behind =>
        have atEnd := (keeps.stepsTo wellFormed steps).at_end behind
        omega
    | takes opcode full place => omega
    | goes opcode left place =>
        rcases place with behind | goal
        · omega
        · have ahead := keeps.position_lt forward current goal
          omega

/-- A program that is driven by its inbox runs at most once through for each box and once more to its
end, and a program that jumps forward runs through at most once. Neither needs a limit to end. -/
theorem inbox_driven_programs_end (wellFormed : program.WellFormed)
    (short : ∀ last, bound = some last → Numeral.isWritable last = true)
    (built : build program initial inbox bound = .ok machine) :
    (program.IsDrivenByInbox → machine.EndsBy ((inbox.length + 1) * program.size + 1)) ∧
      (program.JumpsForward → machine.EndsBy program.size) := by
  have keeps := keepsTo_of_build built
  obtain ⟨floor, -, -, same⟩ := build_eq_ok_iff.mp built
  have unstopped : machine.stop = none := by
    rw [← same]
    rfl
  have fresh : machine.steps = 0 := by
    rw [← same]
    rfl
  constructor
  · intro driven
    have ends := (ranks_stepsAhead wellFormed driven).endsBy wellFormed short keeps unstopped
    refine ends.mono ?_
    have atMost := machine.stepsAhead_le
    have rounds : machine.roundsFor machine.inbox = (inbox.length + 1) * program.size := by
      rw [← same, Nat.succ_mul]
      rfl
    omega
  · intro forward
    have ends := (ranks_distance wellFormed forward).endsBy wellFormed short keeps unstopped
    exact ends.mono (by omega)

/-- This program ships a box unless it holds zero. -/
def pickyProgram : Program where
  instructions := #[
    { opcode := .inbox },
    { opcode := .jumpIfZero, target := some 3 },
    { opcode := .outbox }]
  labels := .empty

def pickyMachine : Machine := start pickyProgram (Floor.bare none) [five, five]

theorem inbox_driven_programs_end_adder_picky :
    adderMachine.EndsBy 13 ∧ pickyMachine.EndsBy 3 := by
  have wellFormed : adderProgram.WellFormed := by decide +kernel
  have wellFormedToo : pickyProgram.WellFormed := by decide +kernel
  have built : build pickyProgram .empty [five, five] none = .ok pickyMachine := rfl
  obtain ⟨driven, -⟩ := inbox_driven_programs_end wellFormed isWritable_adder_bound build_adder
  obtain ⟨-, forward⟩ := inbox_driven_programs_end wellFormedToo
    (fun _ given => by cases given) built
  exact ⟨driven (by decide), forward (by decide)⟩

end Machine

end OfficeMachine
