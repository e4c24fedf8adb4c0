/-
This file gives the rules of the instructions. A rule tells when an instruction applies and what
it does to the hand, the floor, the belts and the position, without saying how this is found out.
-/

import OfficeMachine.Proofs.Box.Arithmetic
import OfficeMachine.Proofs.Floor.Content
import OfficeMachine.Proofs.Machine.Walks

namespace OfficeMachine

/-- The exact result of an opcode on the content of the hand and a box on the floor. Letters only
have a distance, and a bump does not look at the hand. -/
inductive Opcode.Computes : Opcode → Option Box → Box → Int → Prop
  | sum (left right : Number) :
      Computes .add (some (.number left)) (.number right) (left.value + right.value)
  | difference (left right : Number) :
      Computes .subtract (some (.number left)) (.number right) (left.value - right.value)
  | distance (left right : Letter) :
      Computes .subtract (some (.letter left)) (.letter right)
        ((left.character.toNat : Int) - right.character.toNat)
  | above (hand : Option Box) (number : Number) :
      Computes .bumpUp hand (.number number) (number.value + 1)
  | below (hand : Option Box) (number : Number) :
      Computes .bumpDown hand (.number number) (number.value - 1)

theorem Opcode.Computes.unique {opcode : Opcode} {hand : Option Box} {box : Box}
    {first second : Int} (computes : opcode.Computes hand box first)
    (too : opcode.Computes hand box second) : first = second := by
  cases computes <;> cases too <;> rfl

/-- A sum or difference needs a box in the hand. -/
theorem Opcode.Computes.exists_hand {opcode : Opcode} {hand : Option Box} {box : Box}
    {result : Int} (computes : opcode.Computes hand box result)
    (combines : opcode = .add ∨ opcode = .subtract) : ∃ left, hand = some left := by
  cases computes with
  | sum left _ => exact ⟨.number left, rfl⟩
  | difference left _ => exact ⟨.number left, rfl⟩
  | distance left _ => exact ⟨.letter left, rfl⟩
  | above _ _ => simp at combines
  | below _ _ => simp at combines

/-- The arithmetic follows an opcode if it finds the exact result where that is a number, and tells
boxes of the wrong kinds from results out of range. -/
inductive Opcode.Follows (opcode : Opcode) (hand : Option Box) (box : Box) :
    Except ArithmeticError Number → Prop
  | exactly {result : Int} (computes : opcode.Computes hand box result) :
      opcode.Follows hand box (Number.ofResult result)
  | wrongKinds {error : ArithmeticError} (kinds : ∀ result, ¬opcode.Computes hand box result)
      (tells : error.faultKind = .typeMismatch) : opcode.Follows hand box (.error error)

theorem Opcode.Follows.eq_ok {opcode : Opcode} {hand : Option Box} {box : Box}
    {found : Except ArithmeticError Number} (follows : opcode.Follows hand box found)
    {number : Number} (computes : opcode.Computes hand box number.value) :
    found = .ok number := by
  cases follows with
  | exactly exact => exact Number.ofResult_eq_ok_iff.mpr (computes.unique exact)
  | wrongKinds kinds _ => exact absurd computes (kinds _)

namespace Box

theorem follows_add (left right : Box) : Opcode.add.Follows (some left) right (left.add right) := by
  cases left with
  | number first =>
      cases right with
      | number second => exact .exactly (.sum first second)
      | letter second => exact .wrongKinds (fun _ computes => nomatch computes) rfl
  | letter first => exact .wrongKinds (fun _ computes => nomatch computes) rfl

theorem follows_subtract (left right : Box) :
    Opcode.subtract.Follows (some left) right (left.subtract right) := by
  cases left with
  | number first =>
      cases right with
      | number second => exact .exactly (.difference first second)
      | letter second => exact .wrongKinds (fun _ computes => nomatch computes) rfl
  | letter first =>
      cases right with
      | number second => exact .wrongKinds (fun _ computes => nomatch computes) rfl
      | letter second =>
          rw [subtract_letters]
          exact .exactly (.distance first second)

theorem follows_bumpUp (hand : Option Box) (box : Box) :
    Opcode.bumpUp.Follows hand box (box.bump 1) := by
  cases box with
  | number content => exact .exactly (.above hand content)
  | letter content => exact .wrongKinds (fun _ computes => nomatch computes) rfl

theorem follows_bumpDown (hand : Option Box) (box : Box) :
    Opcode.bumpDown.Follows hand box (box.bump (-1)) := by
  cases box with
  | number content => exact .exactly (.below hand content)
  | letter content => exact .wrongKinds (fun _ computes => nomatch computes) rfl

end Box

namespace Machine

variable {machine next : Machine} {instruction : Instruction}

/-- The instruction finds the tile that its address locates. -/
def Finds (machine : Machine) (instruction : Instruction) (tile : Int) : Prop :=
  ∃ address, instruction.address = some address ∧ machine.floor.Locates address tile

/-- The instruction reads the box on the tile that it finds. -/
def Reads (machine : Machine) (instruction : Instruction) (box : Box) : Prop :=
  ∃ tile, machine.Finds instruction tile ∧ machine.floor.content tile = some box

/-- The machine obeys an instruction by changing to the next machine. Only the parts that a rule
names change, apart from the position and the count of the steps. -/
inductive Obeys (machine : Machine) (instruction : Instruction) : Machine → Prop
  | takes {box : Box} {rest : List Box} (opcode : instruction.opcode = .inbox)
      (inbox : machine.inbox = box :: rest) :
      machine.Obeys instruction { machine with hand := some box, inbox := rest }.advance
  | halts (opcode : instruction.opcode = .inbox) (inbox : machine.inbox = []) :
      machine.Obeys instruction machine.halted
  | ships {box : Box} (opcode : instruction.opcode = .outbox) (hand : machine.hand = some box) :
      machine.Obeys instruction
        { machine with hand := none, shipped := box :: machine.shipped }.advance
  | copiesFrom {box : Box} (opcode : instruction.opcode = .copyFrom)
      (reads : machine.Reads instruction box) :
      machine.Obeys instruction { machine with hand := some box }.advance
  | copiesTo {box : Box} {tile : Int} {floor : Floor} (opcode : instruction.opcode = .copyTo)
      (hand : machine.hand = some box) (finds : machine.Finds instruction tile)
      (updated : machine.floor.IsUpdated tile box floor) :
      machine.Obeys instruction { machine with floor := floor }.advance
  | combines {box : Box} {number : Number}
      (opcode : instruction.opcode = .add ∨ instruction.opcode = .subtract)
      (reads : machine.Reads instruction box)
      (computes : instruction.opcode.Computes machine.hand box number.value) :
      machine.Obeys instruction { machine with hand := some (.number number) }.advance
  | bumps {box : Box} {number : Number} {tile : Int} {floor : Floor}
      (opcode : instruction.opcode = .bumpUp ∨ instruction.opcode = .bumpDown)
      (finds : machine.Finds instruction tile) (content : machine.floor.content tile = some box)
      (computes : instruction.opcode.Computes machine.hand box number.value)
      (updated : machine.floor.IsUpdated tile (.number number) floor) :
      machine.Obeys instruction
        { machine with floor := floor, hand := some (.number number) }.advance
  | jumps {target : Nat} (opcode : instruction.opcode = .jump)
      (goal : instruction.target = some target) :
      machine.Obeys instruction (machine.continueAt target)
  | jumpsIfZero {number : Number} {target : Nat} (opcode : instruction.opcode = .jumpIfZero)
      (hand : machine.hand = some (.number number)) (zero : number.value = 0)
      (goal : instruction.target = some target) :
      machine.Obeys instruction (machine.continueAt target)
  | passesNonzero {number : Number} (opcode : instruction.opcode = .jumpIfZero)
      (hand : machine.hand = some (.number number)) (nonzero : number.value ≠ 0) :
      machine.Obeys instruction machine.advance
  | jumpsIfNegative {number : Number} {target : Nat}
      (opcode : instruction.opcode = .jumpIfNegative)
      (hand : machine.hand = some (.number number)) (negative : number.value < 0)
      (goal : instruction.target = some target) :
      machine.Obeys instruction (machine.continueAt target)
  | passesNonnegative {number : Number} (opcode : instruction.opcode = .jumpIfNegative)
      (hand : machine.hand = some (.number number)) (nonnegative : 0 ≤ number.value) :
      machine.Obeys instruction machine.advance

theorem Finds.isWithin {tile : Int} (finds : machine.Finds instruction tile) :
    IsWithin machine.floor.bound tile := by
  obtain ⟨address, -, located⟩ := finds
  exact located.isWithin

theorem Finds.unique {tile other : Int} (finds : machine.Finds instruction tile)
    (too : machine.Finds instruction other) : tile = other := by
  obtain ⟨address, given, located⟩ := finds
  obtain ⟨same, again, locatedToo⟩ := too
  rw [given] at again
  cases again
  exact located.unique locatedToo

theorem Reads.unique {box other : Box} (reads : machine.Reads instruction box)
    (too : machine.Reads instruction other) : box = other := by
  obtain ⟨tile, finds, occupied⟩ := reads
  obtain ⟨same, findsToo, occupiedToo⟩ := too
  rw [← finds.unique findsToo, occupied] at occupiedToo
  exact Option.some.inj occupiedToo

theorem held_of_hand {box : Box} (hand : machine.hand = some box) : machine.held = .ok box := by
  rw [held, hand]

theorem heldNumber_of_hand {number : Number} (hand : machine.hand = some (.number number))
    (opcode : Opcode) : machine.heldNumber opcode = .ok number := by
  rw [heldNumber, held_of_hand hand]
  rfl

theorem Finds.effective {tile : Int} (finds : machine.Finds instruction tile) :
    ∃ number : Nat, machine.effective instruction = .ok number ∧ (number : Int) = tile := by
  obtain ⟨address, given, located⟩ := finds
  obtain ⟨number, resolved, same⟩ := located.resolve
  refine ⟨number, ?_, same⟩
  rw [Machine.effective, given]
  simp only [resolved]
  rfl

theorem Reads.readTile {box : Box} (reads : machine.Reads instruction box) :
    machine.readTile instruction = .ok box := by
  obtain ⟨tile, finds, occupied⟩ := reads
  obtain ⟨number, found, same⟩ := finds.effective
  rw [Machine.readTile, found]
  change orFault .tile (machine.floor.read number) = _
  rw [same, Floor.read_of_content occupied]
  rfl

theorem tookFromInbox_of_cons {box : Box} {rest : List Box} (full : machine.inbox = box :: rest) :
    machine.tookFromInbox = { machine with hand := some box, inbox := rest }.advance := by
  unfold tookFromInbox
  rw [full]

theorem tookFromInbox_of_empty (empty : machine.inbox = []) :
    machine.tookFromInbox = machine.halted := by
  unfold tookFromInbox
  split
  case h_1 box rest occupied =>
      rw [empty] at occupied
      cases occupied
  case h_2 => rfl

/-- The sum or difference of two boxes comes into the hand if it is a number. -/
theorem combined_of_computes {left right : Box} {number : Number}
    (hand : machine.hand = some left) (reads : machine.Reads instruction right)
    {operation : Box → Box → Except ArithmeticError Number}
    (result : operation left right = .ok number) :
    machine.combined instruction operation =
      .ok { machine with hand := some (.number number) } := by
  rw [combined, held_of_hand hand, reads.readTile]
  change (orFault .arithmetic (operation left right) >>= _) = _
  rw [result]
  rfl

theorem bumped_of_computes {box : Box} {number : Number} {tile : Int} {floor : Floor}
    {amount : Int} (finds : machine.Finds instruction tile)
    (content : machine.floor.content tile = some box) (result : box.bump amount = .ok number)
    (updated : machine.floor.IsUpdated tile (.number number) floor) :
    machine.bumped instruction amount =
      .ok { machine with floor := floor, hand := some (.number number) } := by
  obtain ⟨place, found, same⟩ := finds.effective
  have written := Floor.write_eq_ok_iff.mpr ⟨finds.isWithin, updated⟩
  simp only [bumped, found, same, Floor.read_of_content content, bind, Except.bind, orFault,
    Except.mapError, result, written]
  rfl

/-- A machine that obeys an instruction makes the effect of the instruction. -/
theorem Obeys.effect (obeys : machine.Obeys instruction next) :
    machine.effect instruction = .ok next := by
  unfold Machine.effect
  cases obeys with
  | takes opcode inbox =>
      simp only [opcode, tookFromInbox_of_cons inbox]
  | halts opcode inbox =>
      simp only [opcode, tookFromInbox_of_empty inbox]
  | ships opcode hand =>
      simp only [opcode, held_of_hand hand]
      rfl
  | copiesFrom opcode reads =>
      simp only [opcode, reads.readTile]
      rfl
  | copiesTo opcode hand finds updated =>
      obtain ⟨number, found, same⟩ := finds.effective
      have written := Floor.write_eq_ok_iff.mpr ⟨finds.isWithin, updated⟩
      simp only [opcode, held_of_hand hand, found, same, written, bind, Except.bind]
      rfl
  | combines opcode reads computes =>
      obtain ⟨left, hand⟩ := computes.exists_hand opcode
      rcases opcode with adds | subtracts
      · rw [adds, hand] at computes
        simp only [adds, combined_of_computes hand reads ((left.follows_add _).eq_ok computes)]
        rfl
      · rw [subtracts, hand] at computes
        simp only [subtracts,
          combined_of_computes hand reads ((left.follows_subtract _).eq_ok computes)]
        rfl
  | bumps opcode finds content computes updated =>
      rcases opcode with bumpsUp | bumpsDown
      · rw [bumpsUp] at computes
        simp only [bumpsUp, bumped_of_computes finds content
          ((Box.follows_bumpUp _ _).eq_ok computes) updated]
        rfl
      · rw [bumpsDown] at computes
        simp only [bumpsDown, bumped_of_computes finds content
          ((Box.follows_bumpDown _ _).eq_ok computes) updated]
        rfl
  | jumps opcode goal =>
      simp only [opcode, goal]
      rfl
  | jumpsIfZero opcode hand zero goal =>
      simp only [opcode, heldNumber_of_hand hand, bind, Except.bind, if_pos zero, goal]
      rfl
  | passesNonzero opcode hand nonzero =>
      simp only [opcode, heldNumber_of_hand hand, bind, Except.bind, if_neg nonzero]
      rfl
  | jumpsIfNegative opcode hand negative goal =>
      simp only [opcode, heldNumber_of_hand hand, bind, Except.bind, if_pos negative, goal]
      rfl
  | passesNonnegative opcode hand nonnegative =>
      simp only [opcode, heldNumber_of_hand hand, bind, Except.bind,
        if_neg (Int.not_lt.mpr nonnegative)]
      rfl

end Machine

end OfficeMachine
