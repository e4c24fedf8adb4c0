/-
This file shows that moving a box does not depend on what it holds. If all boxes are repacked before
a run that only moves boxes, then the run is the same with repacked boxes.
-/

import OfficeMachine.Proofs.Machine.Agreement

namespace OfficeMachine

/-- This instruction at most moves a box between the belts, the hand and a tile that it names itself,
and it looks into none. -/
def Instruction.onlyMoves (instruction : Instruction) : Bool :=
  match instruction.opcode with
  | .inbox | .outbox | .jump => true
  | .copyFrom | .copyTo => instruction.address.all fun address => !address.indirect
  | .add | .subtract | .bumpUp | .bumpDown | .jumpIfZero | .jumpIfNegative => false

def Program.OnlyMoves (program : Program) : Prop :=
  ∀ instruction ∈ program.instructions.toList, instruction.onlyMoves = true

instance (program : Program) : Decidable program.OnlyMoves :=
  inferInstanceAs (Decidable (∀ instruction ∈ program.instructions.toList, _))

namespace Floor

variable {floor : Floor} {repack : Box → Box}

/-- Each box on the floor is repacked where it lies. -/
def repacked (repack : Box → Box) (floor : Floor) : Floor where
  tiles := floor.tiles.map fun _ box => repack box
  bound := floor.bound
  covered := fun address member => floor.covered address (Std.ExtTreeMap.mem_map.mp member)

theorem getElem?_repacked (repack : Box → Box) (floor : Floor) (tile : Nat) :
    (floor.repacked repack).tiles[tile]? = floor.tiles[tile]?.map repack :=
  Std.ExtTreeMap.getElem?_map

/-- A tile is in the same place when its box is repacked. -/
def Place.repacked (repack : Box → Box) (place : floor.Place) : (floor.repacked repack).Place :=
  ⟨place.val, place.property⟩

theorem place?_repacked (address : Int) :
    (floor.repacked repack).place? address =
      (floor.place? address).map (Place.repacked repack) := by
  cases address with
  | negSucc number => rfl
  | ofNat number =>
      have sameBound : (floor.repacked repack).bound = floor.bound := rfl
      simp only [place?, sameBound]
      split <;> rfl

theorem place_repacked (address : Int) :
    (floor.repacked repack).place address =
      (floor.place address).map (Place.repacked repack) := by
  unfold place
  rw [place?_repacked]
  cases floor.place? address <;> rfl

theorem repacked_bare (repack : Box → Box) (bound : Option Nat) :
    (bare bound).repacked repack = bare bound := by
  apply ext
  · rfl
  · intro tile
    rw [getElem?_repacked, getElem?_bare]
    rfl

theorem put_repacked (place : floor.Place) (box : Box) :
    (floor.repacked repack).put (place.repacked repack) (repack box) =
      (floor.put place box).repacked repack := by
  apply ext
  · rfl
  · intro tile
    have samePlace : (place.repacked repack).val = place.val := rfl
    rw [getElem?_put, getElem?_repacked, getElem?_repacked, getElem?_put, samePlace]
    by_cases same : place.val = tile
    · rw [if_pos same, if_pos same]
      rfl
    · rw [if_neg same, if_neg same]

theorem read_repacked (address : Int) :
    (floor.repacked repack).read address = (floor.read address).map repack := by
  unfold read get
  rw [place_repacked]
  cases floor.place address with
  | error error => rfl
  | ok place =>
      simp only [Except.map, Place.repacked, getElem?_repacked, bind, Except.bind]
      cases floor.tiles[place.val]? <;> rfl

theorem write_repacked (address : Int) (box : Box) :
    (floor.repacked repack).write address (repack box) =
      (floor.write address box).map (repacked repack) := by
  unfold write
  rw [place_repacked]
  cases floor.place address with
  | error error => rfl
  | ok place => exact congrArg Except.ok (put_repacked place box)

/-- A direct address needs no look at a box. -/
theorem resolve_repacked {address : Address} (direct : address.indirect = false) :
    (floor.repacked repack).resolve address = floor.resolve address := by
  simp only [resolve, direct, Bool.false_eq_true, if_false, place_repacked]
  cases floor.place address.index <;> rfl

theorem layOne_repacked (entry : Int × Box) :
    (floor.repacked repack).layOne (entry.1, repack entry.2) =
      (floor.layOne entry).map (repacked repack) := by
  have sameBound : (floor.repacked repack).bound = floor.bound := rfl
  simp only [layOne, place?_repacked, sameBound]
  cases floor.place? entry.1 with
  | some place => exact congrArg Except.ok (put_repacked place entry.2)
  | none =>
      cases floor.bound with
      | none => rfl
      | some last =>
          simp only [Option.map_none]
          split <;> rfl

theorem foldlM_layOne_repacked (entries : List (Int × Box)) :
    (entries.map fun entry => (entry.1, repack entry.2)).foldlM layOne (floor.repacked repack) =
      (entries.foldlM layOne floor).map (repacked repack) := by
  induction entries generalizing floor with
  | nil => rfl
  | cons entry rest inductionHypothesis =>
      rw [List.map_cons, List.foldlM_cons, List.foldlM_cons, layOne_repacked]
      cases floor.layOne entry with
      | error error => rfl
      | ok next => exact inductionHypothesis

/-- Repacked boxes are laid out like the boxes. -/
theorem lay_repacked (repack : Box → Box) (initial : Table Int Box) (bound : Option Int) :
    lay (initial.mapValues repack) bound = (lay initial bound).map (repacked repack) := by
  have lays (last : Option Nat) : (initial.mapValues repack).entries.foldlM layOne (bare last) =
      (initial.entries.foldlM layOne (bare last)).map (repacked repack) := by
    rw [← foldlM_layOne_repacked, repacked_bare]
    rfl
  match bound with
  | none => exact lays none
  | some (.ofNat last) => exact lays (some last)
  | some (.negSucc last) => rfl

end Floor

/-- A run with repacked boxes has the same fault, apart from the boxes that are shipped before. -/
def Fault.repacked (repack : Box → Box) (fault : Fault) : Fault :=
  { fault with output := fault.output.map repack }

def LimitReached.repacked (repack : Box → Box) (reached : LimitReached) : LimitReached :=
  { reached with output := reached.output.map repack }

def RunOutcome.repacked (repack : Box → Box) : RunOutcome → RunOutcome
  | .returned output => .returned (output.map repack)
  | .faulted fault => .faulted (fault.repacked repack)
  | .noTile => .noTile
  | .limitReached reached => .limitReached (reached.repacked repack)
  | .unwritableLimit => .unwritableLimit
  | .alreadyStopped => .alreadyStopped
  | .unfinished => .unfinished

def Request.repacked (repack : Box → Box) : Request → Request
  | .run limit patience => .run limit patience
  | .feed boxes => .feed (boxes.map repack)

namespace Machine

/-- All boxes of the machine are repacked, and everything else is the same. -/
def repacked (repack : Box → Box) (machine : Machine) : Machine :=
  { machine with
    floor := machine.floor.repacked repack
    hand := machine.hand.map repack
    inbox := machine.inbox.map repack
    shipped := machine.shipped.map repack }

end Machine

def RunReport.repacked (repack : Box → Box) (report : RunReport) : RunReport where
  outcome := report.outcome.repacked repack
  machine := report.machine.repacked repack

def Walk.repacked (repack : Box → Box) : Walk → Walk
  | .ended machine => .ended (machine.repacked repack)
  | .failed machine instruction error => .failed (machine.repacked repack) instruction error
  | .going machine => .going (machine.repacked repack)

namespace Machine

variable {machine next : Machine} {instruction : Instruction} {repack : Box → Box}

theorem outbox_repacked (repack : Box → Box) (machine : Machine) :
    (machine.repacked repack).outbox = machine.outbox.map repack :=
  List.map_reverse.symm

theorem atLimit_repacked (limit : Int) :
    (machine.repacked repack).atLimit limit = (machine.atLimit limit).repacked repack := by
  unfold atLimit
  rw [outbox_repacked]
  split <;> rfl

theorem held_repacked : (machine.repacked repack).held = machine.held.map repack := by
  unfold held repacked
  cases machine.hand <;> rfl

theorem tookFromInbox_repacked :
    (machine.repacked repack).tookFromInbox = machine.tookFromInbox.repacked repack := by
  obtain ⟨program, floor, hand, inbox, shipped, position, steps, stop⟩ := machine
  cases inbox <;> rfl

section Direct

variable (direct : instruction.address.all (fun address => !address.indirect) = true)
include direct

theorem effective_repacked :
    (machine.repacked repack).effective instruction = machine.effective instruction := by
  unfold effective
  cases given : instruction.address with
  | none => rfl
  | some address =>
      rw [given, Option.all_some, Bool.not_eq_true'] at direct
      exact congrArg (orFault .tile) (Floor.resolve_repacked direct)

theorem readTile_repacked :
    (machine.repacked repack).readTile instruction =
      (machine.readTile instruction).map repack := by
  unfold readTile
  rw [effective_repacked direct]
  cases machine.effective instruction with
  | error error => rfl
  | ok address =>
      change orFault .tile ((machine.floor.repacked repack).read address) =
        (orFault .tile (machine.floor.read address)).map repack
      rw [Floor.read_repacked]
      cases machine.floor.read address <;> rfl

end Direct

/-- An instruction that only moves boxes has the same effect on repacked ones. -/
theorem effect_repacked (moves : instruction.onlyMoves = true) :
    (machine.repacked repack).effect instruction =
      (machine.effect instruction).map (repacked repack) := by
  unfold Instruction.onlyMoves at moves
  unfold effect
  cases opcode : instruction.opcode <;> rw [opcode] at moves <;> simp only at moves ⊢
  case inbox => exact congrArg Except.ok tookFromInbox_repacked
  case outbox =>
      rw [held_repacked]
      cases machine.held <;> rfl
  case copyFrom =>
      rw [readTile_repacked moves]
      cases machine.readTile instruction <;> rfl
  case copyTo =>
      rw [held_repacked, effective_repacked moves]
      cases machine.held with
      | error error => rfl
      | ok box =>
          cases machine.effective instruction with
          | error error => rfl
          | ok address =>
              simp only [Except.map, bind, Except.bind, repacked, Floor.write_repacked]
              cases machine.floor.write address box <;> rfl
  case jump => cases instruction.target <;> rfl
  all_goals cases moves

section OnlyMoves

variable (moves : machine.program.OnlyMoves)
include moves

theorem effect_repacked_of_current (current : machine.current? = some instruction) :
    (machine.repacked repack).effect instruction =
      (machine.effect instruction).map (repacked repack) :=
  effect_repacked (moves instruction (mem_of_current current))

theorem stepsTo_repacked (steps : machine.StepsTo next) :
    (machine.repacked repack).StepsTo (next.repacked repack) := by
  obtain ⟨instruction, current, performed⟩ := steps
  refine ⟨instruction, current, run_perform_eq_ok_iff.mpr ?_⟩
  rw [effect_repacked_of_current moves current, run_perform_eq_ok_iff.mp performed]
  rfl

theorem failsAt_repacked {error : StepError} (fails : machine.FailsAt instruction error) :
    (machine.repacked repack).FailsAt instruction error := by
  obtain ⟨current, failed⟩ := failsAt_iff.mp fails
  refine failsAt_iff.mpr ⟨current, ?_⟩
  rw [effect_repacked_of_current moves current, failed]
  rfl

/-- A walk with repacked boxes goes the same way. -/
theorem walk_repacked (patience : Nat) :
    (machine.repacked repack).walk patience = (machine.walk patience).repacked repack := by
  have sameCurrent (given : Machine) : (given.repacked repack).current? = given.current? := rfl
  induction patience generalizing machine with
  | zero =>
      cases current : machine.current? with
      | none =>
          rw [walk_of_ended current, walk_of_ended ((sameCurrent machine).trans current)]
          rfl
      | some instruction =>
          rw [walk_zero_of_current current,
            walk_zero_of_current ((sameCurrent machine).trans current)]
          rfl
  | succ patience inductionHypothesis =>
      obtain ended | ⟨instruction, error, fails⟩ | ⟨next, steps⟩ := machine.ends_or_fails_or_steps
      · rw [walk_of_ended ended, walk_of_ended ((sameCurrent machine).trans ended)]
        rfl
      · rw [walk_of_failsAt fails, walk_of_failsAt (failsAt_repacked moves fails)]
        rfl
      · obtain ⟨_, -, movesTo⟩ := steps.movesTo
        rw [walk_of_stepsTo steps, walk_of_stepsTo (stepsTo_repacked moves steps)]
        exact inductionHypothesis (movesTo.program ▸ moves)

theorem run_repacked (limit : Option Int) (patience : Nat) :
    (machine.repacked repack).run limit patience =
      (machine.run limit patience).repacked repack := by
  cases stop : machine.stop with
  | some reason =>
      have stopped : (machine.repacked repack).stop = some reason := stop
      rw [run_of_stopped stop, run_of_stopped stopped]
      rfl
  | none =>
      have unstopped : (machine.repacked repack).stop = none := stop
      have allowed : (machine.repacked repack).allowance limit patience =
          machine.allowance limit patience := rfl
      rw [run_of_unstopped stop, run_of_unstopped unstopped, allowed, walk_repacked moves]
      generalize machine.walk _ = walk
      cases walk with
      | ended left =>
          simp only [Walk.repacked, report, outbox_repacked]
          rfl
      | failed left instruction error =>
          cases error with
          | noTile => rfl
          | fault cause =>
              simp only [Walk.repacked, report, faultAt, outbox_repacked]
              rfl
      | going left =>
          cases limit with
          | none => rfl
          | some limit =>
              simp only [Walk.repacked, report, pauseOutcome, atLimit_repacked]
              rfl

theorem serve_repacked (request : Request) :
    (machine.repacked repack).serve (request.repacked repack) =
      (machine.serve request).repacked repack := by
  cases request with
  | run limit patience => exact congrArg RunReport.machine (run_repacked moves limit patience)
  | feed boxes => simp only [serve, Request.repacked, feed, repacked, List.map_append]

theorem serveAll_repacked (requests : List Request) :
    (machine.repacked repack).serveAll (requests.map (Request.repacked repack)) =
      (machine.serveAll requests).repacked repack := by
  induction requests generalizing machine with
  | nil => rfl
  | cons request rest inductionHypothesis =>
      change ((machine.repacked repack).serve (request.repacked repack)).serveAll _ = _
      rw [serve_repacked moves]
      exact inductionHypothesis ((machine.program_serve request).symm ▸ moves)

end OnlyMoves

variable {program : Program} {initial : Table Int Box} {inbox : List Box} {bound : Option Int}

theorem build_repacked (repack : Box → Box) :
    build program (initial.mapValues repack) (inbox.map repack) bound =
      (build program initial inbox bound).map (repacked repack) := by
  unfold build
  rw [Floor.lay_repacked]
  cases Floor.lay initial bound <;> rfl

/-- If a program only moves boxes, it makes no difference whether all boxes are repacked before or
after a run. The run goes through the same positions, and it ends in the same way after the same
steps. This remains true of all later runs when the boxes fed between them are repacked too. -/
theorem moving_ignores_content (moves : program.OnlyMoves) (repack : Box → Box) :
    build program (initial.mapValues repack) (inbox.map repack) bound =
        (build program initial inbox bound).map (repacked repack) ∧
      ∀ machine, build program initial inbox bound = .ok machine →
        (∀ limit patience, (machine.repacked repack).run limit patience =
          (machine.run limit patience).repacked repack) ∧
        ∀ requests : List Request,
          (machine.repacked repack).serveAll (requests.map (Request.repacked repack)) =
            (machine.serveAll requests).repacked repack := by
  refine ⟨build_repacked repack, ?_⟩
  intro machine built
  obtain ⟨floor, -, -, same⟩ := build_eq_ok_iff.mp built
  rw [← same]
  exact ⟨run_repacked moves, serveAll_repacked moves⟩

/-- This program ships each box by way of the first tile. -/
def carrierProgram : Program where
  instructions := #[
    { opcode := .inbox },
    { opcode := .copyTo, address := some ⟨0, false⟩ },
    { opcode := .copyFrom, address := some ⟨0, false⟩ },
    { opcode := .outbox },
    { opcode := .jump, target := some 0 }]
  labels := .empty

def carrierMachine : Machine := start carrierProgram (Floor.bare (some 0)) adderInbox

theorem moving_ignores_content_carrier :
    (carrierMachine.run none 11).outcome = .returned adderInbox ∧
      ((carrierMachine.repacked fun _ => five).run none 11).outcome = .returned [five, five] := by
  have moves : carrierProgram.OnlyMoves := by decide +kernel
  have built : build carrierProgram .empty adderInbox (some 0) = .ok carrierMachine := rfl
  obtain ⟨-, runs⟩ := moving_ignores_content moves fun _ => five
  have first : (carrierMachine.run none 11).outcome = .returned adderInbox := rfl
  refine ⟨first, ?_⟩
  rw [(runs carrierMachine built).1 none 11, RunReport.repacked, first]
  rfl

end Machine

end OfficeMachine
