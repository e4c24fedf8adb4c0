/-
This file says which fault a step raises. A step looks for the defects of its instruction in a
fixed order, faults with the kind of the first one and obeys the instruction if there is none.
-/

import OfficeMachine.Proofs.Machine.Rules
import OfficeMachine.Proofs.Machine.Stability

namespace OfficeMachine

/-- These opcodes need a box in the hand. -/
def Opcode.usesHand : Opcode → Bool
  | .outbox | .copyTo | .add | .subtract | .jumpIfZero | .jumpIfNegative => true
  | .inbox | .copyFrom | .bumpUp | .bumpDown | .jump => false

/-- These opcodes calculate with the box on their tile. -/
def Opcode.calculates : Opcode → Bool
  | .add | .subtract | .bumpUp | .bumpDown => true
  | .inbox | .outbox | .copyFrom | .copyTo | .jump | .jumpIfZero | .jumpIfNegative => false

theorem Opcode.Computes.calculates {opcode : Opcode} {hand : Option Box} {box : Box}
    {result : Int} (computes : opcode.Computes hand box result) : opcode.calculates = true := by
  cases computes <;> rfl

namespace Opcode

variable {opcode : Opcode}

theorem of_combines (combines : opcode = .add ∨ opcode = .subtract) :
    opcode.usesHand = true ∧ opcode.calculates = true ∧ opcode ≠ .copyTo := by
  rcases combines with rfl | rfl <;> decide

theorem of_bumps (bumps : opcode = .bumpUp ∨ opcode = .bumpDown) :
    opcode.usesHand = false ∧ opcode.calculates = true ∧ opcode ≠ .copyTo := by
  rcases bumps with rfl | rfl <;> decide

theorem of_conditional (conditional : opcode = .jumpIfZero ∨ opcode = .jumpIfNegative) :
    opcode.usesHand = true ∧ opcode.calculates = false := by
  rcases conditional with rfl | rfl <;> decide

end Opcode

/-- A defect keeps the worker from obeying an instruction. -/
inductive Defect where
  | emptyHand
  | indexOutside
  | emptyPointer
  | letterPointer
  | targetOutside
  | emptyTile
  | wrongKinds
  | overflow
  deriving DecidableEq

namespace Defect

def ofAddress : List Defect := [.indexOutside, .emptyPointer, .letterPointer, .targetOutside]

def ofTile : List Defect := ofAddress ++ [.emptyTile]

def ofArithmetic : List Defect := [.wrongKinds, .overflow]

/-- The worker looks for the defects in this order. -/
def order : List Defect := [.emptyHand] ++ (ofTile ++ ofArithmetic)

def kind : Defect → FaultKind
  | .emptyHand => .emptyHand
  | .indexOutside | .targetOutside => .addressOutOfRange
  | .emptyPointer | .emptyTile => .uninitializedCell
  | .letterPointer | .wrongKinds => .typeMismatch
  | .overflow => .overflow

end Defect

namespace Machine

/-- An instruction shows a defect of the hand, of its address, of its tile or of the kinds and the
size of what it calculates. Only a write may go to an empty tile. -/
def Shows (machine : Machine) (instruction : Instruction) : Defect → Prop
  | .emptyHand => instruction.opcode.usesHand = true ∧ machine.hand = none
  | .indexOutside => ∃ address, instruction.address = some address ∧
      ¬IsWithin machine.floor.bound address.index
  | .emptyPointer => ∃ index, instruction.address = some ⟨index, true⟩ ∧
      IsWithin machine.floor.bound index ∧ machine.floor.content index = none
  | .letterPointer => ∃ index letter, instruction.address = some ⟨index, true⟩ ∧
      machine.floor.content index = some (.letter letter)
  | .targetOutside => ∃ index number, instruction.address = some ⟨index, true⟩ ∧
      machine.floor.content index = some (.number number) ∧
      ¬IsWithin machine.floor.bound number.value
  | .emptyTile => instruction.opcode ≠ .copyTo ∧
      ∃ tile, machine.Finds instruction tile ∧ machine.floor.content tile = none
  | .wrongKinds =>
      (instruction.opcode.calculates = true ∧ ∃ box, machine.Reads instruction box ∧
        ∀ result, ¬instruction.opcode.Computes machine.hand box result) ∨
      ((instruction.opcode = .jumpIfZero ∨ instruction.opcode = .jumpIfNegative) ∧
        ∃ letter, machine.hand = some (.letter letter))
  | .overflow => ∃ box result, machine.Reads instruction box ∧
      instruction.opcode.Computes machine.hand box result ∧
      (result < Number.least ∨ Number.greatest < result)

/-- The first defect of a list that an instruction shows. -/
def ShowsFirst (machine : Machine) (instruction : Instruction) (defects : List Defect)
    (defect : Defect) : Prop :=
  ∃ before after, defects = before ++ defect :: after ∧ machine.Shows instruction defect ∧
    ∀ earlier ∈ before, ¬machine.Shows instruction earlier

/-- A computation checks for a list of defects if it fails with the kind of the first one and finds
something sound if there is none. -/
inductive Checks {Found : Type} (machine : Machine) (instruction : Instruction)
    (defects : List Defect) (sound : Found → Prop) : Except StepError Found → Prop
  | passes {found : Found} (free : ∀ defect ∈ defects, ¬machine.Shows instruction defect)
      (holds : sound found) : Checks machine instruction defects sound (.ok found)
  | fails {cause : Cause} {defect : Defect}
      (first : machine.ShowsFirst instruction defects defect) (kind : cause.kind = defect.kind) :
      Checks machine instruction defects sound (.error (.fault cause))

variable {machine : Machine} {instruction : Instruction}

section Checks

variable {Found Further : Type} {sound : Found → Prop} {goal : Further → Prop}
variable {defects further : List Defect} {found : Except StepError Found}

theorem ShowsFirst.append {defect : Defect} (first : machine.ShowsFirst instruction defects defect)
    (further : List Defect) : machine.ShowsFirst instruction (defects ++ further) defect := by
  obtain ⟨before, after, split, shown, free⟩ := first
  refine ⟨before, after ++ further, ?_, shown, free⟩
  rw [split, List.append_assoc, List.cons_append]

theorem ShowsFirst.behind {defect : Defect} (first : machine.ShowsFirst instruction further defect)
    (free : ∀ defect ∈ defects, ¬machine.Shows instruction defect) :
    machine.ShowsFirst instruction (defects ++ further) defect := by
  obtain ⟨before, after, split, shown, others⟩ := first
  refine ⟨defects ++ before, after, by rw [split, List.append_assoc], shown, ?_⟩
  exact List.forall_mem_append.mpr ⟨free, others⟩

/-- Nobody needs to look for defects that an instruction does not show. -/
theorem Checks.behind (checks : machine.Checks instruction further sound found)
    (free : ∀ defect ∈ defects, ¬machine.Shows instruction defect) :
    machine.Checks instruction (defects ++ further) sound found := by
  cases checks with
  | passes others holds => exact .passes (List.forall_mem_append.mpr ⟨free, others⟩) holds
  | fails first kind => exact .fails (first.behind free) kind

theorem Checks.before (checks : machine.Checks instruction defects sound found)
    (free : ∀ defect ∈ further, ¬machine.Shows instruction defect) :
    machine.Checks instruction (defects ++ further) sound found := by
  cases checks with
  | passes others holds => exact .passes (List.forall_mem_append.mpr ⟨others, free⟩) holds
  | fails first kind => exact .fails (first.append further) kind

/-- Checks that come one after another check for their defects in this order. -/
theorem Checks.bind (first : machine.Checks instruction defects sound found)
    {next : Found → Except StepError Further}
    (second : ∀ result, sound result → machine.Checks instruction further goal (next result)) :
    machine.Checks instruction (defects ++ further) goal (found >>= next) := by
  cases first with
  | passes free holds => exact (second _ holds).behind free
  | fails first kind => exact .fails (first.append further) kind

theorem Checks.bind_sure (first : machine.Checks instruction defects sound found)
    {next : Found → Except StepError Further}
    (second : ∀ result, sound result → machine.Checks instruction [] goal (next result)) :
    machine.Checks instruction defects goal (found >>= next) := by
  rw [← List.append_nil defects]
  exact first.bind second

theorem Checks.map (checks : machine.Checks instruction defects sound found)
    {change : Found → Further} (keeps : ∀ result, sound result → goal (change result)) :
    machine.Checks instruction defects goal (change <$> found) := by
  cases checks with
  | passes free holds => exact .passes free (keeps _ holds)
  | fails first kind => exact .fails first kind

end Checks

/-- A step that is left to do without a check has its result. -/
theorem checks_ok {Found : Type} {sound : Found → Prop} {found : Found} (holds : sound found) :
    machine.Checks instruction [] sound (.ok found) :=
  .passes (List.forall_mem_nil _) holds

theorem not_shows_emptyHand (unused : instruction.opcode.usesHand = false) :
    ∀ defect ∈ [Defect.emptyHand], ¬machine.Shows instruction defect := by
  simp [Shows, unused]

/-- An instruction without an address has no defect of a tile. -/
theorem not_shows_of_untiled (untiled : instruction.address = none) :
    ∀ defect ∈ Defect.ofTile, ¬machine.Shows instruction defect := by
  simp [Defect.ofTile, Defect.ofAddress, Shows, Finds, untiled]

theorem not_shows_overflow (idle : instruction.opcode.calculates = false) :
    ¬machine.Shows instruction .overflow := by
  rintro ⟨box, result, -, computes, -⟩
  rw [computes.calculates] at idle
  cases idle

theorem not_shows_ofArithmetic (idle : instruction.opcode.calculates = false)
    (unconditional : instruction.opcode ≠ .jumpIfZero ∧ instruction.opcode ≠ .jumpIfNegative) :
    ∀ defect ∈ Defect.ofArithmetic, ¬machine.Shows instruction defect := by
  have kinds : ¬machine.Shows instruction .wrongKinds := by
    simp [Shows, idle, unconditional]
  simp [Defect.ofArithmetic, kinds, not_shows_overflow idle]

/-- An instruction that needs nothing has no defect. -/
theorem not_shows_of_unneedy (unused : instruction.opcode.usesHand = false)
    (untiled : instruction.address = none) (idle : instruction.opcode.calculates = false)
    (unconditional : instruction.opcode ≠ .jumpIfZero ∧ instruction.opcode ≠ .jumpIfNegative) :
    ∀ defect ∈ Defect.order, ¬machine.Shows instruction defect :=
  List.forall_mem_append.mpr ⟨not_shows_emptyHand unused,
    List.forall_mem_append.mpr ⟨not_shows_of_untiled untiled,
      not_shows_ofArithmetic idle unconditional⟩⟩

theorem checks_held (uses : instruction.opcode.usesHand = true) :
    machine.Checks instruction [.emptyHand] (fun box => machine.hand = some box) machine.held := by
  unfold held
  cases hand : machine.hand with
  | none => exact .fails ⟨[], [], rfl, ⟨uses, hand⟩, List.forall_mem_nil _⟩ rfl
  | some box => exact .passes (by simp [Shows, hand]) rfl

/-- The search for a tile checks for the defects of an address. -/
theorem checks_effective {address : Address} (given : instruction.address = some address) :
    machine.Checks instruction Defect.ofAddress
      (fun tile : Nat => machine.Finds instruction (tile : Int))
      (machine.effective instruction) := by
  obtain ⟨index, indirect⟩ := address
  unfold effective
  rw [given]
  simp only
  by_cases within : IsWithin machine.floor.bound index
  · have inside : ¬machine.Shows instruction .indexOutside := by
      simp [Shows, given, within]
    cases indirect with
    | false =>
        have direct : machine.Finds instruction index := ⟨_, given, .direct within⟩
        obtain ⟨tile, resolved, same⟩ := (Floor.Locates.direct within).resolve
        rw [resolved]
        rw [← same] at direct
        exact .passes (by simp [Defect.ofAddress, Shows, given, within]) direct
    | true =>
        cases content : machine.floor.content index with
        | none =>
            rw [Floor.resolve_of_empty within content]
            exact .fails ⟨[.indexOutside], [.letterPointer, .targetOutside], rfl,
              ⟨index, given, within, content⟩, by simp [inside]⟩ rfl
        | some box =>
            have occupied : ¬machine.Shows instruction .emptyPointer := by
              simp [Shows, given, content]
            cases box with
            | letter letter =>
                rw [Floor.resolve_of_letter content]
                exact .fails ⟨[.indexOutside, .emptyPointer], [.targetOutside], rfl,
                  ⟨index, letter, given, content⟩, by simp [inside, occupied]⟩ rfl
            | number number =>
                have points : ¬machine.Shows instruction .letterPointer := by
                  simp [Shows, given, content]
                by_cases goal : IsWithin machine.floor.bound number.value
                · have indirect : machine.Finds instruction number.value :=
                    ⟨_, given, .indirect content goal⟩
                  obtain ⟨tile, resolved, same⟩ := (Floor.Locates.indirect content goal).resolve
                  have reached : ¬machine.Shows instruction .targetOutside := by
                    simp [Shows, given, content, goal]
                  rw [resolved]
                  rw [← same] at indirect
                  exact .passes (by simp [Defect.ofAddress, inside, occupied, points, reached])
                    indirect
                · rw [Floor.resolve_of_pointer content, Floor.place_of_not_isWithin goal]
                  exact .fails ⟨[.indexOutside, .emptyPointer, .letterPointer], [], rfl,
                    ⟨index, number, given, content, goal⟩, by simp [inside, occupied, points]⟩ rfl
  · rw [Floor.resolve_of_not_isWithin within]
    exact .fails ⟨[], [.emptyPointer, .letterPointer, .targetOutside], rfl,
      ⟨_, given, within⟩, List.forall_mem_nil _⟩ rfl

theorem checks_read (reading : instruction.opcode ≠ .copyTo) {tile : Nat}
    (finds : machine.Finds instruction (tile : Int)) :
    machine.Checks instruction [.emptyTile]
      (fun box => machine.floor.content (tile : Int) = some box)
      (orFault .tile (machine.floor.read (tile : Int))) := by
  cases content : machine.floor.content (tile : Int) with
  | none =>
      rw [Floor.read_of_empty finds.isWithin content]
      exact .fails ⟨[], [], rfl, ⟨reading, tile, finds, content⟩, List.forall_mem_nil _⟩ rfl
  | some box =>
      rw [Floor.read_of_content content]
      refine .passes ?_ rfl
      rw [List.forall_mem_singleton]
      rintro ⟨-, other, findsToo, empty⟩
      rw [← finds.unique findsToo, content] at empty
      cases empty

theorem checks_readTile (reading : instruction.opcode ≠ .copyTo) {address : Address}
    (given : instruction.address = some address) :
    machine.Checks instruction Defect.ofTile (fun box => machine.Reads instruction box)
      (machine.readTile instruction) := by
  apply (checks_effective given).bind
  intro tile finds
  rw [← id_map (orFault _ _)]
  exact (checks_read reading finds).map fun box content => ⟨tile, finds, content⟩

/-- The arithmetic checks the kinds of the boxes and the size of the result. -/
theorem checks_arithmetic {box : Box} (reads : machine.Reads instruction box)
    (calculates : instruction.opcode.calculates = true)
    {found : Except ArithmeticError Number}
    (follows : instruction.opcode.Follows machine.hand box found) :
    machine.Checks instruction Defect.ofArithmetic
      (fun number : Number => instruction.opcode.Computes machine.hand box number.value)
      (orFault .arithmetic found) := by
  cases follows with
  | @exactly result computes =>
      have kinds : ¬machine.Shows instruction .wrongKinds := by
        rintro (⟨-, other, readsToo, none⟩ | ⟨conditional, -⟩)
        · rw [← reads.unique readsToo] at none
          exact none _ computes
        · rw [(Opcode.of_conditional conditional).2] at calculates
          cases calculates
      cases inRange : Number.ofInt? result with
      | some number =>
          have value : number.value = result := Number.ofInt?_eq_some_iff.mp inRange
          have small : ¬machine.Shows instruction .overflow := by
            rintro ⟨other, large, readsToo, computesToo, outOfRange⟩
            rw [← reads.unique readsToo] at computesToo
            rw [← computes.unique computesToo, ← Number.ofInt?_eq_none_iff, inRange] at outOfRange
            cases outOfRange
          rw [Number.ofResult_eq_ok_iff.mpr value]
          rw [← value] at computes
          exact .passes (by simp [Defect.ofArithmetic, kinds, small]) computes
      | none =>
          obtain ⟨error, failed, tells⟩ := Number.ofResult_of_none inRange
          rw [failed]
          exact .fails ⟨[.wrongKinds], [], rfl,
            ⟨box, result, reads, computes, Number.ofInt?_eq_none_iff.mp inRange⟩,
            by simp [kinds]⟩ tells
  | wrongKinds kinds tells =>
      exact .fails ⟨[], [.overflow], rfl, Or.inl ⟨calculates, box, reads, kinds⟩,
        List.forall_mem_nil _⟩ tells

/-- A write to the tile of an instruction needs no check. -/
theorem checks_write {tile : Nat} (finds : machine.Finds instruction (tile : Int)) (box : Box) :
    machine.Checks instruction [] (fun floor => machine.floor.IsUpdated (tile : Int) box floor)
      (orFault .tile (machine.floor.write (tile : Int) box)) := by
  obtain ⟨floor, written, updated⟩ := Floor.write_of_isWithin finds.isWithin box
  rw [written]
  exact checks_ok updated

/-- A conditional jump checks for an empty hand and for a letter in it. -/
theorem checks_heldNumber
    (conditional : instruction.opcode = .jumpIfZero ∨ instruction.opcode = .jumpIfNegative)
    (untiled : instruction.address = none) (opcode : Opcode) :
    machine.Checks instruction Defect.order
      (fun number => machine.hand = some (.number number)) (machine.heldNumber opcode) := by
  obtain ⟨uses, idle⟩ := Opcode.of_conditional conditional
  apply (checks_held uses).bind
  intro box hand
  apply Checks.behind _ (not_shows_of_untiled untiled)
  cases box with
  | letter letter =>
      exact .fails ⟨[], [.overflow], rfl, Or.inr ⟨conditional, letter, hand⟩,
        List.forall_mem_nil _⟩ rfl
  | number number =>
      have kinds : ¬machine.Shows instruction .wrongKinds := by
        simp [Shows, idle, hand]
      exact .passes (by simp [Defect.ofArithmetic, kinds, not_shows_overflow idle]) hand

theorem checks_combined
    (combines : instruction.opcode = .add ∨ instruction.opcode = .subtract) {address : Address}
    (given : instruction.address = some address)
    {operation : Box → Box → Except ArithmeticError Number}
    (follows : ∀ left right,
      instruction.opcode.Follows (some left) right (operation left right)) :
    machine.Checks instruction Defect.order (machine.Obeys instruction)
      (advance <$> machine.combined instruction operation) := by
  obtain ⟨uses, calculates, reading⟩ := Opcode.of_combines combines
  unfold combined
  rw [map_bind]
  apply (checks_held uses).bind
  intro left hand
  rw [map_bind]
  apply (checks_readTile reading given).bind
  intro right reads
  rw [map_bind]
  have arithmetic := follows left right
  rw [← hand] at arithmetic
  apply (checks_arithmetic reads calculates arithmetic).bind_sure
  intro number computes
  exact checks_ok (.combines combines reads computes)

theorem checks_bumped
    (bumps : instruction.opcode = .bumpUp ∨ instruction.opcode = .bumpDown) {address : Address}
    (given : instruction.address = some address) {amount : Int}
    (follows : ∀ box, instruction.opcode.Follows machine.hand box (box.bump amount)) :
    machine.Checks instruction Defect.order (machine.Obeys instruction)
      (advance <$> machine.bumped instruction amount) := by
  obtain ⟨unused, calculates, reading⟩ := Opcode.of_bumps bumps
  -- The tile is found before it is read, because the write goes to the same tile.
  apply Checks.behind _ (not_shows_emptyHand unused)
  unfold bumped Defect.ofTile
  rw [map_bind, List.append_assoc]
  apply (checks_effective given).bind
  intro tile finds
  rw [map_bind]
  apply (checks_read reading finds).bind
  intro box content
  rw [map_bind]
  apply (checks_arithmetic ⟨tile, finds, content⟩ calculates (follows box)).bind_sure
  intro number computes
  rw [map_bind]
  apply (checks_write finds _).bind_sure
  intro floor updated
  exact checks_ok (.bumps bumps finds content computes updated)

/-- A step of a suitable instruction checks for all defects in their order and obeys. -/
theorem checks_effect {size : Nat} (suits : instruction.Suits size) :
    machine.Checks instruction Defect.order (machine.Obeys instruction)
      (machine.effect instruction) := by
  unfold effect
  cases opcode : instruction.opcode <;> simp only
  case inbox =>
      have untiled := (suits.of_nothing (by rw [opcode]; rfl)).1
      have free : ∀ defect ∈ Defect.order, ¬machine.Shows instruction defect :=
        not_shows_of_unneedy (by rw [opcode]; rfl) untiled (by rw [opcode]; rfl) (by simp [opcode])
      cases inbox : machine.inbox with
      | nil =>
          rw [tookFromInbox_of_empty inbox]
          exact .passes free (.halts opcode inbox)
      | cons box rest =>
          rw [tookFromInbox_of_cons inbox]
          exact .passes free (.takes opcode inbox)
  case outbox =>
      apply (checks_held (by rw [opcode]; rfl)).bind
      intro box hand
      apply Checks.behind _ (not_shows_of_untiled (suits.of_nothing (by rw [opcode]; rfl)).1)
      exact .passes (not_shows_ofArithmetic (by rw [opcode]; rfl) (by simp [opcode]))
        (.ships opcode hand)
  case copyFrom =>
      obtain ⟨address, given, -⟩ := suits.of_tile (by rw [opcode]; rfl)
      apply Checks.behind _ (not_shows_emptyHand (by rw [opcode]; rfl))
      apply (checks_readTile (by simp [opcode]) given).bind
      intro box reads
      exact .passes (not_shows_ofArithmetic (by rw [opcode]; rfl) (by simp [opcode]))
        (.copiesFrom opcode reads)
  case copyTo =>
      obtain ⟨address, given, -⟩ := suits.of_tile (by rw [opcode]; rfl)
      have welcome : ∀ defect ∈ [Defect.emptyTile], ¬machine.Shows instruction defect := by
        simp [Shows, opcode]
      apply (checks_held (by rw [opcode]; rfl)).bind
      intro box hand
      apply Checks.before _ (not_shows_ofArithmetic (by rw [opcode]; rfl) (by simp [opcode]))
      apply Checks.before _ welcome
      apply (checks_effective given).bind_sure
      intro tile finds
      apply (checks_write finds box).bind_sure
      intro floor updated
      exact checks_ok (.copiesTo opcode hand finds updated)
  case add =>
      obtain ⟨address, given, -⟩ := suits.of_tile (by rw [opcode]; rfl)
      apply checks_combined (Or.inl opcode) given
      rw [opcode]
      exact Box.follows_add
  case subtract =>
      obtain ⟨address, given, -⟩ := suits.of_tile (by rw [opcode]; rfl)
      apply checks_combined (Or.inr opcode) given
      rw [opcode]
      exact Box.follows_subtract
  case bumpUp =>
      obtain ⟨address, given, -⟩ := suits.of_tile (by rw [opcode]; rfl)
      apply checks_bumped (Or.inl opcode) given
      rw [opcode]
      exact Box.follows_bumpUp machine.hand
  case bumpDown =>
      obtain ⟨address, given, -⟩ := suits.of_tile (by rw [opcode]; rfl)
      apply checks_bumped (Or.inr opcode) given
      rw [opcode]
      exact Box.follows_bumpDown machine.hand
  case jump =>
      obtain ⟨nothing, target, goal, -⟩ := suits.of_label (by rw [opcode]; rfl)
      have free : ∀ defect ∈ Defect.order, ¬machine.Shows instruction defect :=
        not_shows_of_unneedy (by rw [opcode]; rfl) nothing (by rw [opcode]; rfl) (by simp [opcode])
      rw [goal]
      exact .passes free (.jumps opcode goal)
  case jumpIfZero =>
      obtain ⟨nothing, target, goal, -⟩ := suits.of_label (by rw [opcode]; rfl)
      apply (checks_heldNumber (Or.inl opcode) nothing _).bind_sure
      intro number hand
      rw [goal]
      by_cases zero : number.value = 0
      · rw [if_pos zero]
        exact checks_ok (.jumpsIfZero opcode hand zero goal)
      · rw [if_neg zero]
        exact checks_ok (.passesNonzero opcode hand zero)
  case jumpIfNegative =>
      obtain ⟨nothing, target, goal, -⟩ := suits.of_label (by rw [opcode]; rfl)
      apply (checks_heldNumber (Or.inr opcode) nothing _).bind_sure
      intro number hand
      rw [goal]
      by_cases negative : number.value < 0
      · rw [if_pos negative]
        exact checks_ok (.jumpsIfNegative opcode hand negative goal)
      · rw [if_neg negative]
        exact checks_ok (.passesNonnegative opcode hand (Int.not_lt.mp negative))

theorem ShowsFirst.shows {defects : List Defect} {defect : Defect}
    (first : machine.ShowsFirst instruction defects defect) :
    defect ∈ defects ∧ machine.Shows instruction defect := by
  obtain ⟨before, after, split, shown, -⟩ := first
  exact ⟨by simp [split], shown⟩

theorem ShowsFirst.unique {defects : List Defect} {first second : Defect}
    (shown : machine.ShowsFirst instruction defects first)
    (too : machine.ShowsFirst instruction defects second) : first = second := by
  obtain ⟨before, after, split, shown, free⟩ := shown
  obtain ⟨front, back, splitToo, showsToo, freeToo⟩ := too
  rw [split, List.append_eq_append_iff] at splitToo
  rcases splitToo with ⟨middle, same, rest⟩ | ⟨middle, same, rest⟩
  · cases middle with
    | nil => exact (List.cons.inj rest).1
    | cons earlier middle =>
        rw [same, (List.cons.inj rest).1.symm] at freeToo
        exact absurd shown (freeToo first (by simp))
  · cases middle with
    | nil => exact (List.cons.inj rest).1.symm
    | cons earlier middle =>
        rw [same, (List.cons.inj rest).1.symm] at free
        exact absurd showsToo (free second (by simp))

section Effect

variable {next : Machine} {size : Nat}

/-- A suitable instruction has exactly the effects that its rules allow. -/
theorem effect_eq_ok_iff (suits : instruction.Suits size) :
    machine.effect instruction = .ok next ↔ machine.Obeys instruction next := by
  constructor
  · intro success
    have checks : machine.Checks instruction Defect.order (machine.Obeys instruction)
        (machine.effect instruction) := checks_effect suits
    rw [success] at checks
    cases checks with
    | passes _ obeys => exact obeys
  · exact Obeys.effect

theorem effect_fault_iff (suits : instruction.Suits size) {kind : FaultKind} :
    (∃ cause, cause.kind = kind ∧ machine.effect instruction = .error (.fault cause)) ↔
      ∃ defect, machine.ShowsFirst instruction Defect.order defect ∧ defect.kind = kind := by
  have checks : machine.Checks instruction Defect.order (machine.Obeys instruction)
      (machine.effect instruction) := checks_effect suits
  constructor
  · rintro ⟨cause, same, failed⟩
    rw [failed] at checks
    cases checks with
    | fails first told => exact ⟨_, first, told.symm.trans same⟩
  · rintro ⟨defect, first, same⟩
    generalize machine.effect instruction = effect at checks
    cases checks with
    | passes free _ => exact absurd first.shows.2 (free defect first.shows.1)
    | fails other told =>
        rw [other.unique first, same] at told
        exact ⟨_, told, rfl⟩

end Effect

/-- A step faults with a kind if it leaves the machine alone and every run that may take the step
tells of the kind, the instruction and the boxes that were shipped before. -/
def FaultsWith (machine : Machine) (instruction : Instruction) (kind : FaultKind) : Prop :=
  ∃ cause : Cause, cause.kind = kind ∧ cause.IsWritable ∧
    (Deed.perform instruction).run machine = .error (.fault cause) machine ∧
    ∀ limit patience, machine.MayStep limit patience → machine.run limit patience =
      ⟨.faulted ⟨kind, machine.position, instruction, cause.detail, machine.outbox⟩, machine⟩

section FaultsWith

variable {program : Program} {bound : Option Int}

/-- The steps of reachable machines that fault are those whose effect is a fault. -/
theorem faultsWith_iff (keeps : machine.KeepsTo program bound) (wellFormed : program.WellFormed)
    (short : ∀ last, bound = some last → Numeral.isWritable last = true)
    (current : machine.current? = some instruction) {kind : FaultKind} :
    machine.FaultsWith instruction kind ↔
      ∃ cause, cause.kind = kind ∧ machine.effect instruction = .error (.fault cause) := by
  constructor
  · rintro ⟨cause, same, -, performed, -⟩
    exact ⟨cause, same, (run_perform_eq_error_iff.mp performed).2⟩
  · rintro ⟨cause, rfl, failed⟩
    have fails : machine.FailsAt instruction (.fault cause) := failsAt_iff.mpr ⟨current, failed⟩
    obtain ⟨_, same, writable⟩ := keeps.isFault wellFormed short fails
    cases same
    refine ⟨cause, rfl, writable, run_perform_eq_error_iff.mpr ⟨rfl, failed⟩, ?_⟩
    exact (isStuckWith_of_failsAt (keeps.running current).1 fails).remains []

end FaultsWith

end Machine

end OfficeMachine
