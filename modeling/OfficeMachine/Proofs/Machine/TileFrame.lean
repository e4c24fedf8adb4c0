/-
This file frames the tiles. A step stores at most one box, and the content of a tile after any number
of steps is what the last of them stored there, or what it was before if none did.
-/

import OfficeMachine.Proofs.Machine.History

namespace OfficeMachine

/-- A turn stores a box on the tile that its instruction finds before the turn. A copy stores the box
in the hand, and a bump stores its result. -/
inductive Turn.Stores (turn : Turn) (tile : Int) : Box → Prop
  | copy {box : Box} (opcode : turn.instruction.opcode = .copyTo)
      (finds : turn.before.Finds turn.instruction tile) (hand : turn.before.hand = some box) :
      turn.Stores tile box
  | bump {box : Box} {number : Number}
      (opcode : turn.instruction.opcode = .bumpUp ∨ turn.instruction.opcode = .bumpDown)
      (finds : turn.before.Finds turn.instruction tile)
      (content : turn.before.floor.content tile = some box)
      (computes : turn.instruction.opcode.Computes turn.before.hand box number.value) :
      turn.Stores tile (.number number)

/-- A turn treats the tiles well if it leaves a pointer alone that does not point to itself, if it
fills at most one empty tile and if a bump leaves the same number in the hand and on its tile. -/
structure Turn.TreatsTiles (turn : Turn) : Prop where
  pointer : ∀ index, turn.instruction.address = some ⟨index, true⟩ →
    turn.after.floor.content index = turn.before.floor.content index ∨
      ∃ number : Number, turn.before.floor.content index = some (.number number) ∧
        number.value = index
  fills : ∀ first second,
    turn.before.floor.content first = none → turn.after.floor.content first ≠ none →
    turn.before.floor.content second = none → turn.after.floor.content second ≠ none →
    first = second
  bump : turn.instruction.opcode = .bumpUp ∨ turn.instruction.opcode = .bumpDown →
    ∃ tile number, turn.before.Finds turn.instruction tile ∧
      turn.after.hand = some (.number number) ∧
      turn.after.floor.content tile = some (.number number)

def NeverStores (history : List Turn) (tile : Int) : Prop :=
  ∀ turn ∈ history, ∀ box, ¬turn.Stores tile box

/-- The last turn of a history that stores anything on the tile stores the box. -/
def StoresLast (history : List Turn) (tile : Int) (box : Box) : Prop :=
  ∃ earlier turn later, history = earlier ++ turn :: later ∧ turn.Stores tile box ∧
    NeverStores later tile

section Histories

variable {history later : List Turn} {tile : Int} {box : Box}

theorem NeverStores.append (first : NeverStores history tile) (second : NeverStores later tile) :
    NeverStores (history ++ later) tile :=
  List.forall_mem_append.mpr ⟨first, second⟩

theorem StoresLast.append_left (last : StoresLast later tile box) (history : List Turn) :
    StoresLast (history ++ later) tile box := by
  obtain ⟨earlier, turn, behind, split, stores, never⟩ := last
  exact ⟨history ++ earlier, turn, behind, by rw [split, List.append_assoc], stores, never⟩

theorem StoresLast.append_right (last : StoresLast history tile box)
    (never : NeverStores later tile) : StoresLast (history ++ later) tile box := by
  obtain ⟨earlier, turn, behind, split, stores, neverBehind⟩ := last
  refine ⟨earlier, turn, behind ++ later, ?_, stores, neverBehind.append never⟩
  rw [split, List.append_assoc, List.cons_append]

end Histories

namespace Machine

/-- A history frames the tiles between two machines. Occupied tiles stay occupied, a tile keeps its
content unless a turn stores there, and it has in the end what the last such turn stored. -/
structure FramesTiles (machine : Machine) (history : List Turn) (left : Machine) : Prop where
  occupied : ∀ tile, machine.floor.content tile ≠ none → left.floor.content tile ≠ none
  content : ∀ tile,
    (NeverStores history tile ∧ left.floor.content tile = machine.floor.content tile) ∨
      ∃ box, StoresLast history tile box ∧ left.floor.content tile = some box
  turns : ∀ turn ∈ history, turn.TreatsTiles

variable {program : Program} {bound : Option Int} {machine middle next left : Machine}
variable {instruction : Instruction}

theorem framesTiles_of_floor_eq (same : left.floor = machine.floor) :
    machine.FramesTiles [] left where
  occupied := by
    intro tile occupied
    rwa [same]
  content := by
    intro tile
    rw [same]
    exact Or.inl ⟨List.forall_mem_nil _, rfl⟩
  turns := List.forall_mem_nil _

theorem FramesTiles.trans {history later : List Turn} (first : machine.FramesTiles history middle)
    (second : middle.FramesTiles later left) : machine.FramesTiles (history ++ later) left where
  occupied := fun tile occupied => second.occupied tile (first.occupied tile occupied)
  content := by
    intro tile
    rcases second.content tile with ⟨never, same⟩ | ⟨box, last, stored⟩
    · rw [same]
      rcases first.content tile with ⟨neverBefore, unchanged⟩ | ⟨box, last, stored⟩
      · exact Or.inl ⟨neverBefore.append never, unchanged⟩
      · exact Or.inr ⟨box, last.append_right never, stored⟩
    · exact Or.inr ⟨box, last.append_left history, stored⟩
  turns := List.forall_mem_append.mpr ⟨first.turns, second.turns⟩

/-- A turn without a copy to a tile and without a bump frames the tiles. -/
theorem framesTiles_of_other (noCopy : instruction.opcode ≠ .copyTo)
    (noBump : ¬(instruction.opcode = .bumpUp ∨ instruction.opcode = .bumpDown))
    (same : next.floor = machine.floor) :
    machine.FramesTiles [⟨machine, instruction, next⟩] next where
  occupied := by
    intro tile occupied
    rwa [same]
  content := by
    intro tile
    rw [same]
    refine Or.inl ⟨List.forall_mem_singleton.mpr ?_, rfl⟩
    intro box stores
    cases stores with
    | copy opcode _ _ => exact noCopy opcode
    | bump opcode _ _ _ => exact noBump opcode
  turns := by
    rw [List.forall_mem_singleton]
    refine ⟨?_, ?_, fun bumps => absurd bumps noBump⟩
    · intro index _
      exact Or.inl (congrArg (fun floor : Floor => floor.content index) same)
    · intro first second empty occupied
      simp only [same] at occupied
      exact absurd empty occupied

/-- A turn that stores a box frames the tiles if it updates the floor there and nowhere else. -/
theorem framesTiles_of_stores {tile : Int} {box : Box}
    (stores : Turn.Stores ⟨machine, instruction, next⟩ tile box)
    (finds : machine.Finds instruction tile)
    (updated : machine.floor.IsUpdated tile box next.floor)
    (bump : instruction.opcode = .bumpUp ∨ instruction.opcode = .bumpDown →
      ∃ number, box = .number number ∧ next.hand = some (.number number)) :
    machine.FramesTiles [⟨machine, instruction, next⟩] next := by
  have stored : next.floor.content tile = some box := by
    rw [updated.content, Function.update_self]
  have elsewhere {other : Int} (different : other ≠ tile) :
      next.floor.content other = machine.floor.content other := by
    rw [updated.content, Function.update_of_ne different]
  refine ⟨?_, ?_, List.forall_mem_singleton.mpr ⟨?_, ?_, ?_⟩⟩
  · intro other occupied
    by_cases same : other = tile
    · rw [same, stored]
      exact Option.some_ne_none box
    · rwa [elsewhere same]
  · intro other
    by_cases same : other = tile
    · rw [same]
      exact Or.inr ⟨box, ⟨[], _, [], rfl, stores, List.forall_mem_nil _⟩, stored⟩
    · refine Or.inl ⟨List.forall_mem_singleton.mpr ?_, elsewhere same⟩
      intro content storesToo
      -- The instruction finds no other tile.
      cases storesToo with
      | copy _ findsToo _ => exact same (findsToo.unique finds)
      | bump _ findsToo _ _ => exact same (findsToo.unique finds)
  · intro index indirect
    obtain ⟨address, given, located⟩ := finds
    rw [indirect] at given
    cases given
    cases located with
    | @indirect _ number pointer within =>
        by_cases itself : number.value = index
        · exact Or.inr ⟨number, pointer, itself⟩
        · exact Or.inl (elsewhere fun same => itself same.symm)
  · have filled {other : Int} (empty : machine.floor.content other = none)
        (occupied : next.floor.content other ≠ none) : other = tile := by
      by_contra different
      rw [elsewhere different] at occupied
      exact occupied empty
    intro first second empty occupied emptyToo occupiedToo
    rw [filled empty occupied, filled emptyToo occupiedToo]
  · intro bumps
    obtain ⟨number, same, hand⟩ := bump bumps
    rw [same] at stored
    exact ⟨tile, number, finds, hand, stored⟩

/-- Each rule of the instructions frames the tiles. -/
theorem Obeys.framesTiles (obeys : machine.Obeys instruction next) :
    machine.FramesTiles [⟨machine, instruction, next⟩] next := by
  have other {opcode : Opcode} (same : instruction.opcode = opcode)
      (noCopy : opcode ≠ .copyTo) (noBump : ¬(opcode = .bumpUp ∨ opcode = .bumpDown))
      (floor : next.floor = machine.floor) :
      machine.FramesTiles [⟨machine, instruction, next⟩] next :=
    framesTiles_of_other (same ▸ noCopy) (same ▸ noBump) floor
  cases obeys with
  | takes opcode inbox => exact other opcode nofun (by decide) rfl
  | halts opcode inbox => exact other opcode nofun (by decide) rfl
  | ships opcode hand => exact other opcode nofun (by decide) rfl
  | copiesFrom opcode reads => exact other opcode nofun (by decide) rfl
  | copiesTo opcode hand finds updated =>
      refine framesTiles_of_stores (.copy opcode finds hand) finds updated ?_
      rintro (bumps | bumps) <;> simp [opcode] at bumps
  | combines opcode reads computes =>
      rcases opcode with adds | subtracts
      · exact other adds nofun (by decide) rfl
      · exact other subtracts nofun (by decide) rfl
  | bumps opcode finds content computes updated =>
      exact framesTiles_of_stores (.bump opcode finds content computes) finds updated
        fun _ => ⟨_, rfl, rfl⟩
  | jumps opcode goal => exact other opcode nofun (by decide) rfl
  | jumpsIfZero opcode hand zero goal => exact other opcode nofun (by decide) rfl
  | passesNonzero opcode hand nonzero => exact other opcode nofun (by decide) rfl
  | jumpsIfNegative opcode hand negative goal => exact other opcode nofun (by decide) rfl
  | passesNonnegative opcode hand nonnegative => exact other opcode nofun (by decide) rfl

theorem growsByTurns_framesTiles : GrowsByTurns program bound fun machine history _ left =>
    machine.FramesTiles history left where
  nothing := fun _ => framesTiles_of_floor_eq rfl
  finish := fun _ => framesTiles_of_floor_eq rfl
  feed := fun _ _ => framesTiles_of_floor_eq rfl
  turn := fun _ _ obeys => obeys.framesTiles
  trans := fun first second => first.trans second

/-- Each step of a walk is one of its turns. -/
theorem length_turns_of_walksTo {count : Nat} (walks : WalksTo count machine left) :
    (machine.turns count).length = count := by
  induction walks with
  | stay machine => rfl
  | step first _ inductionHypothesis =>
      obtain ⟨instruction, current, performed⟩ := first
      rw [turns_of_performed current performed, List.length_cons, inductionHypothesis]

/-- From any state of a machine on, the tiles change only by what the turns store. This is so for any
number of steps and for any further session of runs and feeds. -/
theorem tiles_change_by_stores (wellFormed : program.WellFormed)
    (reachable : Reachable program bound machine) :
    (∀ count left, WalksTo count machine left → (machine.turns count).length = count ∧
      machine.FramesTiles (machine.turns count) left) ∧
    ∀ requests, machine.FramesTiles (machine.history requests) (machine.serveAll requests) := by
  have keeps := reachable.keepsTo wellFormed
  refine ⟨?_, growsByTurns_framesTiles.serveAll wellFormed keeps⟩
  intro count left walks
  exact ⟨length_turns_of_walksTo walks, growsByTurns_framesTiles.walksTo wellFormed keeps walks⟩

/-- The tile with the number five points to itself until the bump, and then to the next tile. -/
def pointerProgram : Program where
  instructions := #[
    { opcode := .copyFrom, address := some ⟨0, false⟩ },
    { opcode := .copyTo, address := some ⟨0, true⟩ },
    { opcode := .bumpUp, address := some ⟨5, true⟩ },
    { opcode := .copyTo, address := some ⟨5, true⟩ }]
  labels := .empty

def pointerMachine : Machine :=
  start pointerProgram ((Floor.bare (some 6)).put ⟨0, by decide⟩ five) []

theorem tiles_change_by_stores_pointer :
    pointerMachine.FramesTiles (pointerMachine.history [.run none 4])
      (pointerMachine.serveAll [.run none 4]) ∧
    (pointerMachine.serveAll [.run none 4]).floor.content 6 =
      some (.number ⟨6, by decide, by decide⟩) := by
  have wellFormed : pointerProgram.WellFormed := by decide +kernel
  have built : build pointerProgram ⟨[(0, five)], by decide⟩ [] (some 6) =
      .ok pointerMachine := rfl
  obtain ⟨-, sessions⟩ := tiles_change_by_stores wellFormed (.build built)
  exact ⟨sessions [.run none 4], rfl⟩

end Machine

end OfficeMachine
