/-
This file keeps account of the boxes. The history of a session lists its steps, and from it one can
tell which boxes came from the inbox, which went to the outbox and where each letter is from.
-/

import OfficeMachine.Proofs.Floor.Reference
import OfficeMachine.Proofs.Machine.Diagnosis

namespace OfficeMachine

/-- A turn is a step of a machine: the machine before it, the instruction that the machine obeys
and the machine after it. -/
structure Turn where
  before : Machine
  instruction : Instruction
  after : Machine

namespace Turn

/-- A box is taken from the inbox unless that is empty and halts the machine. -/
def takes (turn : Turn) : Bool :=
  turn.instruction.opcode = .inbox ∧ turn.after.stop ≠ some .halt

def ships (turn : Turn) : Bool := turn.instruction.opcode = .outbox

end Turn

namespace Machine

/-- The turns of a walk are its steps that succeed. -/
def turns (machine : Machine) : Nat → List Turn
  | 0 => []
  | patience + 1 =>
      match machine.current? with
      | none => []
      | some instruction =>
          match (Deed.perform instruction).run machine with
          | .ok _ next => ⟨machine, instruction, next⟩ :: next.turns patience
          | .error _ _ => []

/-- A machine that stopped has no further turns. -/
def turnsOfRun (machine : Machine) (limit : Option Int) (patience : Nat) : List Turn :=
  match machine.stop with
  | some _ => []
  | none => machine.turns (machine.allowance limit patience)

/-- The history of a session has the turns of all its runs in their order. -/
def history (machine : Machine) : List Request → List Turn
  | [] => []
  | .feed boxes :: rest => (machine.feed boxes).history rest
  | .run limit patience :: rest =>
      machine.turnsOfRun limit patience ++ (machine.run limit patience).machine.history rest

/-- A machine carries a letter in its hand, on a tile or in its outbox. -/
def Carries (machine : Machine) (letter : Letter) : Prop :=
  machine.hand = some (.letter letter) ∨
    (∃ address, machine.floor.content address = some (.letter letter)) ∨
    .letter letter ∈ machine.outbox

/-- A history accounts for all boxes between two machines. The taken boxes and those left on the
inbox are the boxes that were there or were fed, each shipped box was in the hand before, and every
letter was there or was taken. -/
structure Accounts (machine : Machine) (history : List Turn) (fed taken : List Box)
    (left : Machine) : Prop where
  inbox : taken ++ left.inbox = machine.inbox ++ fed
  takes : taken.length = history.countP Turn.takes
  outbox : left.outbox.map some =
    machine.outbox.map some ++ (history.filter Turn.ships).map (·.before.hand)
  letters : ∀ letter, left.Carries letter → machine.Carries letter ∨ .letter letter ∈ taken
  steps : left.steps = machine.steps + history.length

variable {program : Program} {bound : Option Int} {machine next left : Machine}
variable {instruction : Instruction}

theorem accounts_nothing (machine : Machine) : machine.Accounts [] [] [] machine where
  inbox := by simp
  takes := rfl
  outbox := by simp
  letters := fun _ carries => Or.inl carries
  steps := rfl

theorem Accounts.trans {middle : Machine} {history later : List Turn}
    {fed more taken others : List Box} (first : machine.Accounts history fed taken middle)
    (second : middle.Accounts later more others left) :
    machine.Accounts (history ++ later) (fed ++ more) (taken ++ others) left where
  inbox := by
    rw [List.append_assoc, second.inbox, ← List.append_assoc, first.inbox, List.append_assoc]
  takes := by rw [List.length_append, first.takes, second.takes, List.countP_append]
  outbox := by
    rw [second.outbox, first.outbox, List.filter_append, List.map_append, List.append_assoc]
  letters := by
    intro letter carries
    rw [List.mem_append]
    rcases second.letters letter carries with earlier | takenLater
    · rcases first.letters letter earlier with given | takenEarlier
      · exact Or.inl given
      · exact Or.inr (Or.inl takenEarlier)
    · exact Or.inr (Or.inr takenLater)
  steps := by
    rw [second.steps, first.steps, List.length_append, Nat.add_assoc]

theorem accounts_feed (machine : Machine) (boxes : List Box) :
    machine.Accounts [] boxes [] (machine.feed boxes) where
  inbox := rfl
  takes := rfl
  outbox := by simp [outbox, feed]
  letters := fun _ carries => Or.inl carries
  steps := rfl

theorem accounts_finish (machine : Machine) : machine.Accounts [] [] [] machine.finish :=
  { accounts_nothing machine with }

/-- An instruction that does not work on the belts accounts for the boxes if it brings no letter from
nowhere. -/
theorem accounts_off_belts (noInbox : instruction.opcode ≠ .inbox)
    (noOutbox : instruction.opcode ≠ .outbox) (inbox : next.inbox = machine.inbox)
    (shipped : next.shipped = machine.shipped) (steps : next.steps = machine.steps + 1)
    (hand : ∀ letter, next.hand = some (.letter letter) → machine.Carries letter)
    (tiles : ∀ address letter, next.floor.content address = some (.letter letter) →
      machine.Carries letter) :
    machine.Accounts [⟨machine, instruction, next⟩] [] [] next where
  inbox := by simp [inbox]
  takes := by simp [Turn.takes, noInbox]
  outbox := by simp [outbox, shipped, Turn.ships, noOutbox]
  letters := by
    intro letter carries
    left
    rcases carries with held | ⟨address, lies⟩ | sent
    · exact hand letter held
    · exact tiles address letter lies
    · rw [outbox, shipped] at sent
      exact Or.inr (Or.inr sent)
  steps := steps

/-- Each rule of the instructions accounts for the boxes. -/
theorem Obeys.accounts (obeys : machine.Obeys instruction next) (unstopped : machine.stop = none) :
    ∃ taken, machine.Accounts [⟨machine, instruction, next⟩] [] taken next := by
  have held (letter : Letter) (given : machine.hand = some (.letter letter)) :
      machine.Carries letter := Or.inl given
  have lies (address : Int) (letter : Letter)
      (given : machine.floor.content address = some (.letter letter)) :
      machine.Carries letter := Or.inr (Or.inl ⟨address, given⟩)
  have jumped (target : Nat) (opcode : instruction.opcode.operand = .label) :
      machine.Accounts [⟨machine, instruction, machine.continueAt target⟩] [] []
        (machine.continueAt target) :=
    accounts_off_belts (by rintro same; rw [same] at opcode; cases opcode)
      (by rintro same; rw [same] at opcode; cases opcode) rfl rfl rfl held lies
  cases obeys with
  | @takes box rest opcode inbox =>
      refine ⟨[box], ?_, ?_, ?_, ?_, rfl⟩
      · simp [inbox, advance, continueAt]
      · simp [Turn.takes, opcode, advance, continueAt, unstopped]
      · simp [outbox, advance, continueAt, Turn.ships, opcode]
      · rintro letter (taken | others)
        · cases taken
          exact Or.inr (List.mem_singleton_self _)
        · exact Or.inl (Or.inr others)
  | halts opcode inbox =>
      refine ⟨[], ?_, ?_, ?_, ?_, rfl⟩
      · simp [inbox, halted, continueAt]
      · simp [Turn.takes, halted, continueAt]
      · simp [outbox, halted, continueAt, Turn.ships, opcode]
      · exact fun _ carries => Or.inl carries
  | @ships box opcode hand =>
      refine ⟨[], ?_, ?_, ?_, ?_, rfl⟩
      · simp [advance, continueAt]
      · simp [Turn.takes, opcode]
      · simp [outbox, advance, continueAt, Turn.ships, opcode, hand]
      · rintro letter (none | ⟨address, given⟩ | sent)
        · cases none
        · exact Or.inl (lies address letter given)
        · left
          rcases List.mem_cons.mp (List.mem_reverse.mp sent) with same | earlier
          · exact held letter (by rw [hand, same])
          · exact Or.inr (Or.inr (List.mem_reverse.mpr earlier))
  | @copiesFrom box opcode reads =>
      obtain ⟨tile, -, occupied⟩ := reads
      refine ⟨[], accounts_off_belts (by simp [opcode]) (by simp [opcode]) rfl rfl rfl ?_ lies⟩
      intro letter copied
      exact lies tile letter (occupied.trans copied)
  | @copiesTo box tile floor opcode hand finds updated =>
      refine ⟨[], accounts_off_belts (by simp [opcode]) (by simp [opcode]) rfl rfl rfl held ?_⟩
      intro address letter given
      rcases updated.content_eq_or given with same | before
      · exact held letter (by rw [hand, same])
      · exact lies address letter before
  | combines opcode reads computes =>
      refine ⟨[], accounts_off_belts ?_ ?_ rfl rfl rfl ?_ lies⟩
      · rcases opcode with same | same <;> simp [same]
      · rcases opcode with same | same <;> simp [same]
      · intro letter number
        cases number
  | bumps opcode finds content computes updated =>
      refine ⟨[], accounts_off_belts ?_ ?_ rfl rfl rfl ?_ ?_⟩
      · rcases opcode with same | same <;> simp [same]
      · rcases opcode with same | same <;> simp [same]
      · intro letter number
        cases number
      · intro address letter given
        rcases updated.content_eq_or given with number | before
        · cases number
        · exact lies address letter before
  | jumps opcode goal => exact ⟨[], jumped _ (by rw [opcode]; rfl)⟩
  | jumpsIfZero opcode _ _ goal => exact ⟨[], jumped _ (by rw [opcode]; rfl)⟩
  | passesNonzero opcode _ _ => exact ⟨[], jumped _ (by rw [opcode]; rfl)⟩
  | jumpsIfNegative opcode _ _ goal => exact ⟨[], jumped _ (by rw [opcode]; rfl)⟩
  | passesNonnegative opcode _ _ => exact ⟨[], jumped _ (by rw [opcode]; rfl)⟩

theorem turns_of_ended (ended : machine.current? = none) (patience : Nat) :
    machine.turns patience = [] := by
  cases patience with
  | zero => rfl
  | succ patience => rw [turns, ended]

theorem turns_of_failsAt {error : StepError} (fails : machine.FailsAt instruction error)
    (patience : Nat) : machine.turns (patience + 1) = [] := by
  obtain ⟨current, left, performed⟩ := fails
  rw [turns, current]
  simp only [performed]

theorem turns_of_performed (current : machine.current? = some instruction)
    (performed : (Deed.perform instruction).run machine = .ok () next) (patience : Nat) :
    machine.turns (patience + 1) = ⟨machine, instruction, next⟩ :: next.turns patience := by
  rw [turns, current]
  simp only [performed]

/-- A relation grows by turns if nothing but a turn is needed to extend it. It relates the machines
before and after a history to the turns of it and to the boxes that were fed meanwhile. -/
structure GrowsByTurns (program : Program) (bound : Option Int)
    (related : Machine → List Turn → List Box → Machine → Prop) : Prop where
  nothing : ∀ machine, related machine [] [] machine
  finish : ∀ machine, related machine [] [] machine.finish
  feed : ∀ machine boxes, related machine [] boxes (machine.feed boxes)
  turn : ∀ {machine next instruction}, machine.KeepsTo program bound →
    machine.current? = some instruction → machine.Obeys instruction next →
    related machine [⟨machine, instruction, next⟩] [] next
  trans : ∀ {machine middle left history later fed more}, related machine history fed middle →
    related middle later more left → related machine (history ++ later) (fed ++ more) left

section GrowsByTurns

variable {related : Machine → List Turn → List Box → Machine → Prop}
variable (grows : GrowsByTurns program bound related) (wellFormed : program.WellFormed)
include grows wellFormed

/-- A step that succeeds is a turn. -/
theorem GrowsByTurns.performed (keeps : machine.KeepsTo program bound)
    (current : machine.current? = some instruction)
    (performed : (Deed.perform instruction).run machine = .ok () next) :
    related machine [⟨machine, instruction, next⟩] [] next :=
  grows.turn keeps current ((effect_eq_ok_iff (keeps.suits wellFormed current)).mp
    (run_perform_eq_ok_iff.mp performed))

theorem GrowsByTurns.walksTo (keeps : machine.KeepsTo program bound) {count : Nat}
    (walks : WalksTo count machine left) : related machine (machine.turns count) [] left := by
  induction walks with
  | stay machine => exact grows.nothing machine
  | step first _ inductionHypothesis =>
      obtain ⟨instruction, current, performed⟩ := id first
      rw [turns_of_performed current performed]
      exact grows.trans (grows.performed wellFormed keeps current performed)
        (inductionHypothesis (keeps.stepsTo wellFormed first))

/-- However a walk comes to its end, the relation has grown by its turns. -/
theorem GrowsByTurns.walk (keeps : machine.KeepsTo program bound) (pause : Machine → RunOutcome)
    (patience : Nat) :
    related machine (machine.turns patience) [] (report pause (machine.walk patience)).machine := by
  induction patience generalizing machine with
  | zero =>
      cases current : machine.current? with
      | none =>
          rw [turns_of_ended current, walk_of_ended current]
          exact grows.finish machine
      | some instruction =>
          rw [walk_zero_of_current current]
          exact grows.nothing machine
  | succ patience inductionHypothesis =>
      obtain ended | ⟨instruction, error, fails⟩ | ⟨next, instruction, current, performed⟩ :=
        machine.ends_or_fails_or_steps
      · rw [turns_of_ended ended, walk_of_ended ended]
        exact grows.finish machine
      · rw [turns_of_failsAt fails, walk_of_failsAt fails]
        cases error with
        | fault cause => exact grows.nothing machine
        | noTile => exact grows.nothing machine
      · have steps : machine.StepsTo next := ⟨instruction, current, performed⟩
        rw [turns_of_performed current performed, walk_of_stepsTo steps]
        exact grows.trans (grows.performed wellFormed keeps current performed)
          (inductionHypothesis (keeps.stepsTo wellFormed steps))

theorem GrowsByTurns.run (keeps : machine.KeepsTo program bound) (limit : Option Int)
    (patience : Nat) :
    related machine (machine.turnsOfRun limit patience) [] (machine.run limit patience).machine := by
  cases stop : machine.stop with
  | some reason =>
      rw [run_of_stopped stop, turnsOfRun, stop]
      exact grows.nothing machine
  | none =>
      rw [run_of_unstopped stop, turnsOfRun, stop]
      exact grows.walk wellFormed keeps _ _

/-- The relation grows by the history of a session. -/
theorem GrowsByTurns.serveAll (keeps : machine.KeepsTo program bound) (requests : List Request) :
    related machine (machine.history requests) (fedBoxes requests) (machine.serveAll requests) := by
  induction requests generalizing machine with
  | nil => exact grows.nothing machine
  | cons request rest inductionHypothesis =>
      have later := inductionHypothesis (keeps.serve wellFormed request)
      cases request with
      | feed boxes => exact grows.trans (grows.feed machine boxes) later
      | run limit patience =>
          exact grows.trans (grows.run wellFormed keeps limit patience) later

end GrowsByTurns

theorem growsByTurns_accounts : GrowsByTurns program bound fun machine history fed left =>
    ∃ taken, machine.Accounts history fed taken left where
  nothing := fun machine => ⟨[], accounts_nothing machine⟩
  finish := fun machine => ⟨[], accounts_finish machine⟩
  feed := fun machine boxes => ⟨[], accounts_feed machine boxes⟩
  turn := fun keeps current obeys => obeys.accounts (keeps.running current).1
  trans := by
    rintro machine middle left history later fed more ⟨taken, first⟩ ⟨others, second⟩
    exact ⟨taken ++ others, first.trans second⟩

theorem KeepsTo.serveAll (keeps : machine.KeepsTo program bound) (wellFormed : program.WellFormed)
    (requests : List Request) : (machine.serveAll requests).KeepsTo program bound := by
  induction requests generalizing machine with
  | nil => exact keeps
  | cons request rest inductionHypothesis =>
      exact inductionHypothesis (keeps.serve wellFormed request)

/-- The history of a session accounts for the boxes. -/
theorem KeepsTo.accounts_serveAll (keeps : machine.KeepsTo program bound)
    (wellFormed : program.WellFormed) (requests : List Request) :
    ∃ taken, machine.Accounts (machine.history requests) (fedBoxes requests) taken
      (machine.serveAll requests) :=
  growsByTurns_accounts.serveAll wellFormed keeps requests

/-- The outbox is only ever extended. -/
theorem Accounts.outbox_prefix {history : List Turn} {fed taken : List Box}
    (accounts : machine.Accounts history fed taken left) : machine.outbox <+: left.outbox := by
  rw [← List.prefix_map_iff_of_injective (Option.some_injective Box), accounts.outbox]
  exact List.prefix_append ..

/-- A new machine carries only the letters of its initial layout. -/
theorem carries_start {floor : Floor} {initial : Table Int Box} (holds : floor.Holds initial)
    {inbox : List Box} {letter : Letter} (carries : (start program floor inbox).Carries letter) :
    ∃ address, initial.find? address = some (.letter letter) := by
  rcases carries with held | ⟨address, lies⟩ | sent
  · cases held
  · exact ⟨address, (holds.content_eq address).symm.trans lies⟩
  · cases sent

/-- No box is lost, doubled or put elsewhere in the row. In every session the inbox loses its first
box with each instruction that takes one, the outbox gains the box in the hand with each instruction
that ships it, and each letter was taken or lay on the floor from the start. -/
theorem boxes_are_conserved {initial : Table Int Box} {inbox : List Box}
    (wellFormed : program.WellFormed)
    (built : build program initial inbox bound = .ok machine) (requests : List Request) :
    ∃ taken, taken ++ (machine.serveAll requests).inbox = inbox ++ fedBoxes requests ∧
      taken.length = (machine.history requests).countP Turn.takes ∧
      (machine.serveAll requests).outbox.length = (machine.history requests).countP Turn.ships ∧
      (machine.serveAll requests).outbox.map some =
        ((machine.history requests).filter Turn.ships).map (·.before.hand) ∧
      (∀ later, (machine.serveAll requests).outbox <+:
        ((machine.serveAll requests).serveAll later).outbox) ∧
      (∀ letter, (machine.serveAll requests).Carries letter →
        .letter letter ∈ taken ∨ ∃ address, initial.find? address = some (.letter letter)) ∧
      (machine.serveAll requests).steps = (machine.history requests).length := by
  have keeps := keepsTo_of_build built
  obtain ⟨floor, -, holds, same⟩ := build_eq_ok_iff.mp built
  obtain ⟨taken, accounts⟩ := keeps.accounts_serveAll wellFormed requests
  have shipped : (machine.serveAll requests).outbox.map some =
      ((machine.history requests).filter Turn.ships).map (·.before.hand) := by
    rw [accounts.outbox, ← same]
    rfl
  refine ⟨taken, ?_, accounts.takes, ?_, shipped, ?_, ?_, ?_⟩
  · rw [accounts.inbox, ← same]
    rfl
  · have counted := congrArg List.length shipped
    rwa [List.length_map, List.length_map, ← List.countP_eq_length_filter] at counted
  · intro later
    obtain ⟨others, further⟩ :=
      (keeps.serveAll wellFormed requests).accounts_serveAll wellFormed later
    exact further.outbox_prefix
  · intro letter carries
    rcases accounts.letters letter carries with given | member
    · rw [← same] at given
      exact Or.inr (carries_start holds given)
    · exact Or.inl member
  · rw [accounts.steps, ← same]
    exact Nat.zero_add _

/-- The user feeds the machine behind its first output, and then it fails with a letter in its
hand. -/
def interruptedSession : List Request := [.run (some 3) 0, .feed [five], .run none 9]

theorem boxes_are_conserved_interrupted :
    ∃ taken, taken ++ (adderMachine.serveAll interruptedSession).inbox = adderInbox ++ [five] ∧
      taken.length = 2 ∧ .letter ⟨'A', by decide, by decide⟩ ∈ taken ∧
      ((adderMachine.history interruptedSession).filter Turn.ships).map (·.before.hand) =
        [some (.number ⟨10, by decide, by decide⟩)] := by
  obtain ⟨taken, inbox, takes, -, shipped, -, letters, -⟩ :=
    boxes_are_conserved (by decide +kernel) build_adder interruptedSession
  refine ⟨taken, inbox, takes, ?_, shipped.symm⟩
  rcases letters ⟨'A', by decide, by decide⟩ (Or.inl rfl) with member | ⟨address, lies⟩
  · exact member
  · -- The only tile of the initial layout holds a number.
    obtain ⟨entry, first, found⟩ := Option.map_eq_some_iff.mp lies
    have listed := List.mem_of_find?_eq_some first
    rw [List.mem_singleton.mp listed] at found
    cases found

end Machine

end OfficeMachine
