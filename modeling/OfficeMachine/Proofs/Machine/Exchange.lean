/-
This file exchanges the floor under a machine. If the two floors differ only in errors of one kind,
then the machines do the same until the first one fails with a fault of that kind.
-/

import OfficeMachine.Proofs.Machine.Simulation

namespace OfficeMachine

/-- A tolerance excuses tile errors of one kind and says under which bound the other floor reports
an address that is outside both of them. -/
structure Tolerance where
  kind : FaultKind
  excuses : TileError → Prop
  relabel : Option Nat → Option Nat
  ofKind : ∀ error, excuses error → error.faultKind = kind
  relabels : kind = .addressOutOfRange ∨ ∀ bound, relabel bound = bound

namespace Tolerance

def translateTile (tolerance : Tolerance) : TileError → TileError
  | .outside address bound => .outside address (tolerance.relabel bound)
  | .empty address => .empty address
  | .emptyPointer address => .emptyPointer address
  | .letterPointer address letter => .letterPointer address letter

/-- Only errors of tiles are translated. -/
def translate (tolerance : Tolerance) : StepError → StepError
  | .fault (.tile error) => .fault (.tile (tolerance.translateTile error))
  | .fault .emptyHand => .fault .emptyHand
  | .fault (.letterInHand opcode letter) => .fault (.letterInHand opcode letter)
  | .fault (.arithmetic error) => .fault (.arithmetic error)
  | .noTile => .noTile

def excusesStep (tolerance : Tolerance) : StepError → Prop
  | .fault (.tile error) => tolerance.excuses error
  | .fault .emptyHand | .fault (.letterInHand _ _) | .fault (.arithmetic _) | .noTile => False

/-- A tolerance accepts a relation between floors if a box on the first floor is on the second one,
writes keep the relation, and every failure of the first floor alone is excused. -/
structure Accepts (tolerance : Tolerance) (related : Floor → Floor → Prop) : Prop where
  relabelled : ∀ {floor other}, related floor other → tolerance.relabel floor.bound = other.bound
  covered : ∀ {floor other tile}, related floor other → covers floor.bound tile = true →
    covers other.bound tile = true
  beyond : ∀ {floor other tile}, related floor other → covers floor.bound tile = false →
    covers other.bound tile = false ∨ tolerance.excuses (.outside tile floor.bound)
  occupied : ∀ {floor other} {tile : Nat} {box}, related floor other →
    floor.tiles[tile]? = some box → other.tiles[tile]? = some box
  empty : ∀ {floor other} {tile : Nat}, related floor other → floor.tiles[tile]? = none →
    other.tiles[tile]? = none ∨
      ∀ address, tolerance.excuses (.empty address) ∧ tolerance.excuses (.emptyPointer address)
  put : ∀ {floor other} {place : floor.Place} {counterpart : other.Place}, related floor other →
    counterpart.val = place.val → ∀ box, related (floor.put place box) (other.put counterpart box)

namespace Accepts

variable {tolerance : Tolerance} {related : Floor → Floor → Prop} {floor other : Floor}

theorem place (accepts : tolerance.Accepts related) (alike : related floor other)
    (address : Int) :
    Matches tolerance.translateTile tolerance.excuses
      (fun (place : floor.Place) (counterpart : other.Place) => counterpart.val = place.val)
      (floor.place address) (other.place address) := by
  cases address with
  | negSucc number =>
      exact .failed (congrArg (TileError.outside _) (accepts.relabelled alike).symm)
  | ofNat tile =>
      change Matches _ _ _ (floor.place (tile : Int)) (other.place (tile : Int))
      cases covered : covers floor.bound tile with
      | true =>
          rw [Floor.place_of_covers covered, Floor.place_of_covers (accepts.covered alike covered)]
          exact .found rfl
      | false =>
          rw [Floor.place_of_not_covers covered]
          rcases accepts.beyond alike covered with beyond | excused
          · rw [Floor.place_of_not_covers beyond]
            exact .failed (congrArg (TileError.outside _) (accepts.relabelled alike).symm)
          · exact .excused excused

theorem get (accepts : tolerance.Accepts related) (alike : related floor other) (address : Int) :
    Matches tolerance.translateTile tolerance.excuses
      (fun content counterpart => ∃ tile : Nat,
        content = floor.tiles[tile]? ∧ counterpart = other.tiles[tile]?)
      (floor.get address) (other.get address) := by
  apply (accepts.place alike address).map
  intro place counterpart same
  refine ⟨place.val, rfl, ?_⟩
  rw [same]

theorem read (accepts : tolerance.Accepts related) (alike : related floor other)
    (address : Int) :
    Matches tolerance.translateTile tolerance.excuses Eq
      (floor.read address) (other.read address) := by
  apply (accepts.get alike address).bind
  rintro content counterpart ⟨tile, isContent, isCounterpart⟩
  cases content with
  | some box =>
      rw [isCounterpart, accepts.occupied alike isContent.symm]
      exact .found rfl
  | none =>
      rcases accepts.empty alike isContent.symm with empty | excused
      · rw [isCounterpart, empty]
        exact .failed rfl
      · exact .excused (excused address).1

theorem resolve (accepts : tolerance.Accepts related) (alike : related floor other)
    (address : Address) :
    Matches tolerance.translateTile tolerance.excuses Eq
      (floor.resolve address) (other.resolve address) := by
  have direct (index : Int) : Matches tolerance.translateTile tolerance.excuses Eq
      ((floor.place index).map Subtype.val) ((other.place index).map Subtype.val) :=
    (accepts.place alike index).map fun _ _ same => same.symm
  unfold Floor.resolve
  split
  · apply (accepts.get alike address.index).bind
    rintro content counterpart ⟨tile, isContent, isCounterpart⟩
    match content with
    | some (.letter letter) =>
        rw [isCounterpart, accepts.occupied alike isContent.symm]
        exact .failed rfl
    | some (.number number) =>
        rw [isCounterpart, accepts.occupied alike isContent.symm]
        exact direct number.value
    | none =>
        rcases accepts.empty alike isContent.symm with empty | excused
        · rw [isCounterpart, empty]
          exact .failed rfl
        · exact .excused (excused address.index).2
  · exact direct address.index

theorem write (accepts : tolerance.Accepts related) (alike : related floor other)
    (address : Int) (box : Box) :
    Matches tolerance.translateTile tolerance.excuses related
      (floor.write address box) (other.write address box) := by
  apply (accepts.place alike address).map
  intro place counterpart same
  exact accepts.put alike same box

end Accepts

end Tolerance

namespace Machine

def withFloor (machine : Machine) (floor : Floor) : Machine := { machine with floor := floor }

/-- A machine is another one on an exchanged floor. -/
def Exchanged (related : Floor → Floor → Prop) (machine other : Machine) : Prop :=
  ∃ floor, related machine.floor floor ∧ other = machine.withFloor floor

section Effect

variable {tolerance : Tolerance} {related : Floor → Floor → Prop} {machine : Machine}
variable {floor : Floor} {instruction : Instruction}

theorem matches_held : Matches tolerance.translate tolerance.excusesStep Eq machine.held
    (machine.withFloor floor).held := by
  apply Matches.same
  intro error failed
  unfold held at failed
  split at failed <;> cases failed
  rfl

theorem matches_heldNumber (opcode : Opcode) :
    Matches tolerance.translate tolerance.excusesStep Eq (machine.heldNumber opcode)
      ((machine.withFloor floor).heldNumber opcode) := by
  apply matches_held.bind
  rintro box _ rfl
  cases box with
  | number number => exact .found rfl
  | letter letter => exact .failed rfl

theorem matches_arithmetic {Found : Type} (result : Except ArithmeticError Found) :
    Matches tolerance.translate tolerance.excusesStep Eq (orFault .arithmetic result)
      (orFault .arithmetic result) := by
  cases result with
  | ok found => exact .found rfl
  | error error => exact .failed rfl

theorem matches_tile {First Second : Type} {alike : First → Second → Prop}
    {first : Except TileError First} {second : Except TileError Second}
    (agree : Matches tolerance.translateTile tolerance.excuses alike first second) :
    Matches tolerance.translate tolerance.excusesStep alike (orFault .tile first)
      (orFault .tile second) := by
  cases agree with
  | found alike => exact .found alike
  | failed translated =>
      exact .failed (congrArg (fun error => StepError.fault (.tile error)) translated)
  | excused isExcused => exact .excused isExcused

theorem matches_effective (accepts : tolerance.Accepts related)
    (alike : related machine.floor floor) :
    Matches tolerance.translate tolerance.excusesStep Eq (machine.effective instruction)
      ((machine.withFloor floor).effective instruction) := by
  unfold effective
  cases instruction.address with
  | none => exact .failed rfl
  | some address => exact matches_tile (accepts.resolve alike address)

theorem matches_readTile (accepts : tolerance.Accepts related)
    (alike : related machine.floor floor) :
    Matches tolerance.translate tolerance.excusesStep Eq (machine.readTile instruction)
      ((machine.withFloor floor).readTile instruction) := by
  apply (matches_effective accepts alike).bind
  rintro tile _ rfl
  exact matches_tile (accepts.read alike tile)

theorem matches_combined (accepts : tolerance.Accepts related)
    (alike : related machine.floor floor)
    (operation : Box → Box → Except ArithmeticError Number) :
    Matches tolerance.translate tolerance.excusesStep (Exchanged related)
      (machine.combined instruction operation)
      ((machine.withFloor floor).combined instruction operation) := by
  apply matches_held.bind
  rintro left _ rfl
  apply (matches_readTile accepts alike).bind
  rintro right _ rfl
  apply (matches_arithmetic _).bind
  rintro result _ rfl
  exact .found ⟨floor, alike, rfl⟩

theorem matches_bumped (accepts : tolerance.Accepts related)
    (alike : related machine.floor floor) (amount : Int) :
    Matches tolerance.translate tolerance.excusesStep (Exchanged related)
      (machine.bumped instruction amount)
      ((machine.withFloor floor).bumped instruction amount) := by
  apply (matches_effective accepts alike).bind
  rintro tile _ rfl
  apply (matches_tile (accepts.read alike tile)).bind
  rintro box _ rfl
  apply (matches_arithmetic _).bind
  rintro result _ rfl
  apply (matches_tile (accepts.write alike tile _)).bind
  intro written counterpart stillAlike
  exact .found ⟨counterpart, stillAlike, rfl⟩

theorem Exchanged.advance {other : Machine} (exchanged : Exchanged related machine other) :
    Exchanged related machine.advance other.advance := by
  obtain ⟨floor, alike, same⟩ := exchanged
  rw [same]
  exact ⟨floor, alike, rfl⟩

theorem exchanged_goOn (alike : related machine.floor floor) (target : Option Nat) :
    Exchanged related (machine.goOn target) ((machine.withFloor floor).goOn target) := by
  cases target with
  | none => exact ⟨floor, alike, rfl⟩
  | some target => exact ⟨floor, alike, rfl⟩

/-- An instruction does the same on an exchanged floor. -/
theorem matches_effect (accepts : tolerance.Accepts related)
    (alike : related machine.floor floor) (instruction : Instruction) :
    Matches tolerance.translate tolerance.excusesStep (Exchanged related)
      (machine.effect instruction) ((machine.withFloor floor).effect instruction) := by
  unfold effect
  cases instruction.opcode <;> simp only
  case inbox =>
      apply Matches.found
      unfold tookFromInbox withFloor
      cases machine.inbox with
      | nil => exact ⟨floor, alike, rfl⟩
      | cons box rest => exact ⟨floor, alike, rfl⟩
  case outbox =>
      apply matches_held.bind
      rintro box _ rfl
      exact .found ⟨floor, alike, rfl⟩
  case copyFrom =>
      apply (matches_readTile accepts alike).bind
      rintro box _ rfl
      exact .found ⟨floor, alike, rfl⟩
  case copyTo =>
      apply matches_held.bind
      rintro box _ rfl
      apply (matches_effective accepts alike).bind
      rintro tile _ rfl
      apply (matches_tile (accepts.write alike tile box)).bind
      intro written counterpart stillAlike
      exact .found ⟨counterpart, stillAlike, rfl⟩
  case add => exact (matches_combined accepts alike _).map fun _ _ => Exchanged.advance
  case subtract => exact (matches_combined accepts alike _).map fun _ _ => Exchanged.advance
  case bumpUp => exact (matches_bumped accepts alike _).map fun _ _ => Exchanged.advance
  case bumpDown => exact (matches_bumped accepts alike _).map fun _ _ => Exchanged.advance
  case jump => exact .found (exchanged_goOn alike _)
  case jumpIfZero =>
      apply (matches_heldNumber _).bind
      rintro number _ rfl
      exact .found (exchanged_goOn alike _)
  case jumpIfNegative =>
      apply (matches_heldNumber _).bind
      rintro number _ rfl
      exact .found (exchanged_goOn alike _)

end Effect

end Machine

/-- A run faults with a kind if it ends in a fault of that kind. -/
def RunReport.FaultsWith (kind : FaultKind) (report : RunReport) : Prop :=
  ∃ fault, report.outcome = .faulted fault ∧ fault.kind = kind

namespace Machine

section Run

variable {tolerance : Tolerance} {related : Floor → Floor → Prop} {machine left : Machine}
variable {floor : Floor}

/-- An error that is not of the tolerated kind stays as it is. -/
theorem translate_eq_or_kind (tolerance : Tolerance) (error : StepError) :
    tolerance.translate error = error ∨
      ∃ cause, error = .fault cause ∧ cause.kind = tolerance.kind := by
  match error with
  | .fault (.tile (.outside address bound)) =>
      rcases tolerance.relabels with outside | unchanged
      · exact Or.inr ⟨_, rfl, outside.symm⟩
      · left
        simp only [Tolerance.translate, Tolerance.translateTile, unchanged]
  | .fault (.tile (.empty address)) => exact Or.inl rfl
  | .fault (.tile (.emptyPointer address)) => exact Or.inl rfl
  | .fault (.tile (.letterPointer address letter)) => exact Or.inl rfl
  | .fault .emptyHand => exact Or.inl rfl
  | .fault (.letterInHand opcode letter) => exact Or.inl rfl
  | .fault (.arithmetic error) => exact Or.inl rfl
  | .noTile => exact Or.inl rfl

theorem kind_of_excusesStep {error : StepError} (excused : tolerance.excusesStep error) :
    ∃ cause, error = .fault cause ∧ cause.kind = tolerance.kind := by
  cases error with
  | noTile => exact excused.elim
  | fault cause =>
      cases cause with
      | tile error => exact ⟨_, rfl, tolerance.ofKind error excused⟩
      | emptyHand => exact excused.elim
      | letterInHand opcode letter => exact excused.elim
      | arithmetic error => exact excused.elim

/-- A machine on an exchanged floor does the same until the first machine fails with a fault of the
tolerated kind. -/
theorem simulates_exchanged (accepts : tolerance.Accepts related) :
    Simulates (Exchanged related) (RunReport.FaultsWith tolerance.kind) where
  looks := by
    rintro machine other ⟨floor, -, same⟩
    rw [same]
    exact ⟨rfl, rfl, rfl, rfl, rfl⟩
  finish := by
    rintro machine other ⟨floor, alike, same⟩
    rw [same]
    exact ⟨floor, alike, rfl⟩
  stepsTo := by
    rintro machine other next ⟨floor, alike, same⟩ ⟨instruction, current, performed⟩
    rw [run_perform_eq_ok_iff] at performed
    have agree := matches_effect accepts alike instruction
    rw [performed] at agree
    generalize followed : (machine.withFloor floor).effect instruction = second at agree
    cases agree with
    | found exchanged =>
        rw [same]
        exact Or.inr ⟨_, ⟨instruction, current, run_perform_eq_ok_iff.mpr followed⟩, exchanged⟩
  failsAt := by
    rintro machine other instruction error ⟨floor, alike, same⟩ fails
    obtain ⟨current, failed⟩ := failsAt_iff.mp fails
    have agree := matches_effect accepts alike instruction
    rw [failed] at agree
    generalize followed : (machine.withFloor floor).effect instruction = second at agree
    cases agree with
    | excused isExcused =>
        obtain ⟨cause, isFault, kind⟩ := kind_of_excusesStep isExcused
        exact Or.inl ⟨cause, isFault, _, rfl, kind⟩
    | failed translated =>
        rcases translate_eq_or_kind tolerance error with unchanged | ⟨cause, isFault, kind⟩
        · rw [same]
          rw [translated, unchanged] at followed
          exact Or.inr (failsAt_iff.mpr ⟨current, followed⟩)
        · exact Or.inl ⟨cause, isFault, _, rfl, kind⟩

/-- A walk goes through the same states on an exchanged floor. -/
theorem WalksTo.withFloor (accepts : tolerance.Accepts related) {count : Nat}
    (walks : WalksTo count machine left) (alike : related machine.floor floor) :
    ∃ last, WalksTo count (machine.withFloor floor) (left.withFloor last) ∧
      related left.floor last := by
  rcases (simulates_exchanged accepts).walksTo ⟨floor, alike, rfl⟩ walks with
    ⟨⟨fault, returned, -⟩, -⟩ | ⟨follower, followed, last, stillAlike, same⟩
  · cases returned
  · rw [same] at followed
    exact ⟨last, followed, stillAlike⟩

/-- A run that does not end in a fault of the tolerated kind has the same outcome on an exchanged
floor. -/
theorem run_withFloor (accepts : tolerance.Accepts related) (alike : related machine.floor floor)
    (unstopped : machine.stop = none) {limit : Option Int} {patience : Nat}
    (unparted : ¬(machine.run limit patience).FaultsWith tolerance.kind) :
    ∃ last, (machine.withFloor floor).run limit patience =
        ⟨(machine.run limit patience).outcome,
          (machine.run limit patience).machine.withFloor last⟩ ∧
      related (machine.run limit patience).machine.floor last := by
  rcases (simulates_exchanged accepts).run ⟨floor, alike, rfl⟩ unstopped limit patience with
    parted | ⟨follower, ran, last, stillAlike, same⟩
  · exact absurd parted unparted
  · rw [same] at ran
    exact ⟨last, ran, stillAlike⟩

end Run

end Machine

end OfficeMachine
