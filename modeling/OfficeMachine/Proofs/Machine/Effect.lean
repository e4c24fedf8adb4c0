/-
This file tells the effect of an instruction in one piece. A step that works on the machine in
place either has its whole effect or none, because all of its checks come before its changes.
-/

import OfficeMachine.Machine.Step

namespace OfficeMachine.Machine

def held (machine : Machine) : Except StepError Box :=
  match machine.hand with
  | some box => .ok box
  | none => .error (.fault .emptyHand)

def heldNumber (machine : Machine) (opcode : Opcode) : Except StepError Number := do
  match ← machine.held with
  | .number number => .ok number
  | .letter letter => .error (.fault (.letterInHand opcode letter))

/-- A check of the floor or of the arithmetic fails with the cause of a fault. -/
def orFault {Failed Found : Type} (cause : Failed → Cause) (result : Except Failed Found) :
    Except StepError Found :=
  result.mapError fun error => .fault (cause error)

theorem orFault_eq_ok_iff {Failed Found : Type} {cause : Failed → Cause}
    {result : Except Failed Found} {found : Found} :
    orFault cause result = .ok found ↔ result = .ok found := by
  cases result with
  | error failure =>
      constructor
      · intro impossible
        cases impossible
      · intro impossible
        cases impossible
  | ok value =>
      constructor
      · intro same
        rw [Except.ok.inj same]
      · intro same
        rw [Except.ok.inj same]
        rfl

def effective (machine : Machine) (instruction : Instruction) : Except StepError Nat :=
  match instruction.address with
  | some address => orFault .tile (machine.floor.resolve address)
  | none => .error .noTile

def readTile (machine : Machine) (instruction : Instruction) : Except StepError Box := do
  let address ← machine.effective instruction
  orFault .tile (machine.floor.read address)

/-- The sum or difference comes into the hand. -/
def combined (machine : Machine) (instruction : Instruction)
    (operation : Box → Box → Except ArithmeticError Number) : Except StepError Machine := do
  let left ← machine.held
  let right ← machine.readTile instruction
  let result ← orFault .arithmetic (operation left right)
  return { machine with hand := some (.number result) }

/-- The bumped number comes onto its tile and into the hand. -/
def bumped (machine : Machine) (instruction : Instruction) (amount : Int) :
    Except StepError Machine := do
  let address ← machine.effective instruction
  let box ← orFault .tile (machine.floor.read address)
  let result ← orFault .arithmetic (box.bump amount)
  let floor ← orFault .tile (machine.floor.write address (.number result))
  return { machine with floor := floor, hand := some (.number result) }

/-- A step goes on at its target, or at the next instruction if it has none. -/
def goOn (machine : Machine) : Option Nat → Machine
  | some target => machine.continueAt target
  | none => machine.advance

def tookFromInbox (machine : Machine) : Machine :=
  match machine.inbox with
  | box :: rest => { machine with hand := some box, inbox := rest }.advance
  | [] => { machine with stop := some .halt }.continueAt machine.program.size

/-- The effect of an instruction is the next machine, or the error that prevents it. -/
def effect (machine : Machine) (instruction : Instruction) : Except StepError Machine :=
  match instruction.opcode with
  | .inbox => .ok machine.tookFromInbox
  | .outbox => do
      let box ← machine.held
      return { machine with hand := none, shipped := box :: machine.shipped }.advance
  | .copyFrom => do
      let box ← machine.readTile instruction
      return { machine with hand := some box }.advance
  | .copyTo => do
      let box ← machine.held
      let address ← machine.effective instruction
      let floor ← orFault .tile (machine.floor.write address box)
      return { machine with floor := floor }.advance
  | .add => advance <$> machine.combined instruction Box.add
  | .subtract => advance <$> machine.combined instruction Box.subtract
  | .bumpUp => advance <$> machine.bumped instruction 1
  | .bumpDown => advance <$> machine.bumped instruction (-1)
  | .jump => .ok (machine.goOn instruction.target)
  | .jumpIfZero => do
      let number ← machine.heldNumber .jumpIfZero
      return machine.goOn (if number.value = 0 then instruction.target else none)
  | .jumpIfNegative => do
      let number ← machine.heldNumber .jumpIfNegative
      return machine.goOn (if number.value < 0 then instruction.target else none)

/-- A failure comes with the machine as it is, and anything found is put to use. -/
def settle {Found Result : Type} (machine : Machine) (found : Except StepError Found)
    (use : Found → EStateM.Result StepError Machine Result) :
    EStateM.Result StepError Machine Result :=
  match found with
  | .ok result => use result
  | .error error => .error error machine

end OfficeMachine.Machine

namespace OfficeMachine.Deed

open Machine

/-- A deed looks for something if it only finds it and leaves the machine as it is. -/
def LooksFor {Found : Type} (deed : Deed Found) (machine : Machine)
    (found : Except StepError Found) : Prop :=
  deed.run machine = machine.settle found fun result => .ok result machine

/-- A deed has an effect if it makes all of the change or leaves the machine as it is. -/
def HasEffect (deed : Deed Unit) (machine : Machine) (effect : Except StepError Machine) : Prop :=
  deed.run machine = machine.settle effect fun next => .ok () next

variable {Found Result Further : Type} {machine : Machine} {instruction : Instruction}

/-- A deed that begins with a look goes on with what the look found. -/
theorem LooksFor.bind {look : Deed Found} {found : Except StepError Found}
    (looks : look.LooksFor machine found) {next : Found → Deed Result}
    {further : Found → Except StepError Further}
    {use : Further → EStateM.Result StepError Machine Result}
    (then_ : ∀ result, (next result).run machine = machine.settle (further result) use) :
    (look >>= next).run machine = machine.settle (found >>= further) use := by
  rw [EStateM.run_bind, looks]
  cases found with
  | ok result => exact then_ result
  | error error => rfl

theorem looksFor_held : Deed.held.LooksFor machine machine.held := by
  unfold LooksFor Deed.held Machine.held
  rw [EStateM.run_bind, EStateM.run_get]
  simp only
  cases machine.hand <;> rfl

theorem looksFor_heldNumber (opcode : Opcode) :
    (Deed.heldNumber opcode).LooksFor machine (machine.heldNumber opcode) := by
  apply looksFor_held.bind
  intro box
  cases box <;> rfl

theorem looksFor_onFloor (look : Floor → Except TileError Found) :
    (onFloor look).LooksFor machine (orFault .tile (look machine.floor)) := by
  unfold LooksFor onFloor orFault
  rw [EStateM.run_bind, EStateM.run_get]
  simp only
  cases look machine.floor <;> rfl

theorem looksFor_calculated (result : Except ArithmeticError Number) :
    (calculated result).LooksFor machine (orFault .arithmetic result) := by
  cases result <;> rfl

theorem looksFor_effective :
    (Deed.effective instruction).LooksFor machine (machine.effective instruction) := by
  unfold Deed.effective Machine.effective
  cases instruction.address with
  | none => rfl
  | some address => exact looksFor_onFloor _

theorem looksFor_readTile :
    (Deed.readTile instruction).LooksFor machine (machine.readTile instruction) := by
  apply looksFor_effective.bind
  intro address
  exact looksFor_onFloor _

theorem hasEffect_combine (operation : Box → Box → Except ArithmeticError Number) :
    (combine instruction operation).HasEffect machine
      (machine.combined instruction operation) := by
  apply looksFor_held.bind
  intro left
  apply looksFor_readTile.bind
  intro right
  apply (looksFor_calculated _).bind
  intro result
  rfl

theorem hasEffect_bump (amount : Int) :
    (Deed.bump instruction amount).HasEffect machine (machine.bumped instruction amount) := by
  apply looksFor_effective.bind
  intro address
  apply (looksFor_onFloor _).bind
  intro box
  apply (looksFor_calculated _).bind
  intro result
  unfold writeTile
  rw [bind_assoc]
  apply (looksFor_onFloor _).bind
  intro floor
  rfl

/-- A sure change after an effect belongs to the effect. -/
theorem HasEffect.modify {deed : Deed Unit} {effect : Except StepError Machine}
    (has : deed.HasEffect machine effect) (change : Machine → Machine) :
    (deed >>= fun _ => modify change).HasEffect machine (change <$> effect) := by
  unfold HasEffect
  rw [EStateM.run_bind, has]
  cases effect <;> rfl

/-- The worker performs an instruction with its whole effect or not at all. -/
theorem hasEffect_perform (machine : Machine) (instruction : Instruction) :
    (perform instruction).HasEffect machine (machine.effect instruction) := by
  unfold perform obey effect
  cases instruction.opcode <;> simp only [bind_assoc, pure_bind]
  case inbox =>
      obtain ⟨program, floor, hand, inbox, shipped, position, steps, stop⟩ := machine
      cases inbox <;> rfl
  case outbox =>
      apply looksFor_held.bind
      intro box
      rfl
  case copyFrom =>
      apply looksFor_readTile.bind
      intro box
      rfl
  case copyTo =>
      apply looksFor_held.bind
      intro box
      apply looksFor_effective.bind
      intro address
      unfold writeTile
      rw [bind_assoc]
      apply (looksFor_onFloor _).bind
      intro floor
      rfl
  case add => exact (hasEffect_combine _).modify advance
  case subtract => exact (hasEffect_combine _).modify advance
  case bumpUp => exact (hasEffect_bump _).modify advance
  case bumpDown => exact (hasEffect_bump _).modify advance
  case jump => cases instruction.target <;> rfl
  case jumpIfZero =>
      apply (looksFor_heldNumber _).bind
      intro number
      generalize (if number.value = 0 then instruction.target else none) = target
      cases target <;> rfl
  case jumpIfNegative =>
      apply (looksFor_heldNumber _).bind
      intro number
      generalize (if number.value < 0 then instruction.target else none) = target
      cases target <;> rfl

end OfficeMachine.Deed
