/-
This file shows that more boxes on the floor matter only to a machine that misses one of them. A run
that needs no box from an empty tile does the same on a floor with more boxes, and it neither moves
nor changes those.
-/

import OfficeMachine.Proofs.Machine.Exchange

namespace OfficeMachine

/-- A floor is filled up from a table if its empty tiles have what the table has for them. -/
structure Floor.FilledUp (spare : Table Int Box) (floor filled : Floor) : Prop where
  bound : filled.bound = floor.bound
  tiles : ∀ tile : Nat, filled.tiles[tile]? = floor.tiles[tile]?.or (spare.find? tile)

/-- A filled floor need not share the failures of empty tiles. -/
def Tolerance.emptyTiles : Tolerance where
  kind := .uninitializedCell
  excuses := fun error => error.faultKind = .uninitializedCell
  relabel := id
  ofKind := fun _ same => same
  relabels := Or.inr fun _ => rfl

theorem Floor.accepts_filledUp (spare : Table Int Box) :
    Tolerance.emptyTiles.Accepts (Floor.FilledUp spare) where
  relabelled := fun filledUp => filledUp.bound.symm
  covered := by
    intro floor filled tile filledUp covered
    rw [filledUp.bound, covered]
  beyond := by
    intro floor filled tile filledUp beyond
    left
    rw [filledUp.bound, beyond]
  occupied := by
    intro floor filled tile box filledUp occupied
    rw [filledUp.tiles, occupied]
    rfl
  empty := fun _ _ => Or.inr fun _ => ⟨rfl, rfl⟩
  put := by
    intro floor filled place counterpart filledUp same box
    refine ⟨filledUp.bound, ?_⟩
    intro tile
    rw [getElem?_put, getElem?_put, same, filledUp.tiles]
    split <;> rfl

/-- A floor that holds a larger table is the other one filled up. -/
theorem Floor.Holds.filledUp {floor rich : Floor} {initial richer : Table Int Box}
    (holds : floor.Holds initial) (holdsMore : rich.Holds richer)
    (sameBound : rich.bound = floor.bound)
    (contained : ∀ address box, initial.find? address = some box →
      richer.find? address = some box) : Floor.FilledUp richer floor rich := by
  refine ⟨sameBound, ?_⟩
  intro tile
  rw [holds.tiles, holdsMore.tiles]
  cases found : initial.find? (tile : Int) with
  | none => rfl
  | some box =>
      rw [contained _ box found]
      rfl

namespace Machine

variable {program : Program} {initial richer : Table Int Box} {inbox : List Box}
variable {bound : Option Int} {machine rich : Machine}

/-- The order in which the table lists the boxes does not matter. -/
theorem build_of_perm {reordered : Table Int Box}
    (perm : reordered.entries.Perm initial.entries)
    (built : build program initial inbox bound = .ok machine) :
    build program reordered inbox bound = .ok machine := by
  obtain ⟨floor, sameBound, holds, same⟩ := build_eq_ok_iff.mp built
  refine build_eq_ok_iff.mpr ⟨floor, sameBound, ⟨?_, ?_⟩, same⟩
  · intro entry member
    exact holds.placed entry (perm.mem_iff.mp member)
  · intro tile
    rw [holds.tiles, Table.find?_eq_of_perm perm]

/-- A run on a floor with more boxes has the same outcome unless the run on the other floor misses a
box. Both machines go through the same states, and the additional boxes stay where they are. The
order in which the boxes were listed does not matter. -/
theorem run_with_spare_boxes (built : build program initial inbox bound = .ok machine)
    (builtRich : build program richer inbox bound = .ok rich)
    (contained : ∀ address box, initial.find? address = some box →
      richer.find? address = some box) :
    (∀ limit patience, ¬(machine.run limit patience).FaultsWith .uninitializedCell →
      ∃ floor, rich.run limit patience =
          ⟨(machine.run limit patience).outcome,
            (machine.run limit patience).machine.withFloor floor⟩ ∧
        Floor.FilledUp richer (machine.run limit patience).machine.floor floor) ∧
    (∀ count left, WalksTo count machine left →
      ∃ floor, WalksTo count rich (left.withFloor floor) ∧
        Floor.FilledUp richer left.floor floor) ∧
    ∀ reordered : Table Int Box, reordered.entries.Perm initial.entries →
      build program reordered inbox bound = .ok machine := by
  obtain ⟨floor, sameBound, holds, same⟩ := build_eq_ok_iff.mp built
  obtain ⟨richFloor, richBound, holdsMore, sameRich⟩ := build_eq_ok_iff.mp builtRich
  have boundsAgree : richFloor.bound = floor.bound :=
    Option.map_injective (fun _ _ => Int.ofNat.inj) (richBound.trans sameBound.symm)
  have filledUp := holds.filledUp holdsMore boundsAgree contained
  have accepts := Floor.accepts_filledUp richer
  have unstopped : (start program floor inbox).stop = none := rfl
  rw [← same, ← sameRich]
  refine ⟨?_, ?_, ?_⟩
  · intro limit patience unparted
    exact run_withFloor accepts filledUp unstopped unparted
  · intro count left walks
    exact walks.withFloor accepts filledUp
  · intro reordered perm
    rw [same]
    exact build_of_perm perm built

/-- This machine adds on a floor without a bound. -/
def openAdder : Machine := start adderProgram ((Floor.bare none).put ⟨0, rfl⟩ five) adderInbox

/-- This machine has a box more on its floor. -/
def crowdedAdder : Machine :=
  start adderProgram (((Floor.bare none).put ⟨7, rfl⟩ five).put ⟨0, rfl⟩ five) adderInbox

theorem run_with_spare_boxes_adder :
    ∃ floor, crowdedAdder.run (some 4) 0 =
        ⟨.limitReached ⟨4, 0, [.number ⟨10, by decide, by decide⟩]⟩,
          (openAdder.run (some 4) 0).machine.withFloor floor⟩ ∧
      Floor.FilledUp ⟨[(7, five), (0, five)], by decide⟩
        (openAdder.run (some 4) 0).machine.floor floor := by
  have built : build adderProgram ⟨[(0, five)], by decide⟩ adderInbox none = .ok openAdder := rfl
  have builtRich : build adderProgram ⟨[(7, five), (0, five)], by decide⟩ adderInbox none =
      .ok crowdedAdder := rfl
  obtain ⟨runs, -, -⟩ := run_with_spare_boxes built builtRich (by
    intro address box found
    rw [Table.find?_eq_some_iff] at found ⊢
    exact List.mem_cons_of_mem _ found)
  have met : (openAdder.run (some 4) 0).outcome =
      .limitReached ⟨4, 0, [.number ⟨10, by decide, by decide⟩]⟩ :=
    atLimit_of_isWritable (by decide +kernel) _
  rw [← met]
  apply runs (some 4) 0
  rintro ⟨fault, faulted, -⟩
  rw [met] at faulted
  cases faulted

end Machine

end OfficeMachine
