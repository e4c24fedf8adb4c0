/-
This file shows that a looser bound of the floor is conservative. A run that needs no tile beyond the
tighter bound does not notice the bound at all.
-/

import OfficeMachine.Proofs.Machine.Exchange

namespace OfficeMachine

/-- A floor is loosened to a bound if it keeps its boxes and gets the bound, which covers at least as
many tiles. -/
structure Floor.Loosened (bound : Option Nat) (floor loose : Floor) : Prop where
  bound : loose.bound = bound
  wider : ∀ tile, covers floor.bound tile = true → covers loose.bound tile = true
  tiles : loose.tiles = floor.tiles

/-- A loosened floor reports its own bound, and it need not share the failures of addresses that are
not negative. -/
def Tolerance.looseBound (bound : Option Nat) : Tolerance where
  kind := .addressOutOfRange
  excuses := fun error => ∃ (tile : Nat) (last : Option Nat), error = .outside tile last
  relabel := fun _ => bound
  ofKind := by
    rintro error ⟨tile, last, same⟩
    rw [same]
    rfl
  relabels := Or.inl rfl

theorem Floor.accepts_loosened (bound : Option Nat) :
    (Tolerance.looseBound bound).Accepts (Floor.Loosened bound) where
  relabelled := fun loosened => loosened.bound.symm
  covered := fun loosened covered => loosened.wider _ covered
  beyond := fun _ _ => Or.inr ⟨_, _, rfl⟩
  occupied := by
    intro floor loose tile box loosened occupied
    rw [loosened.tiles, occupied]
  empty := by
    intro floor loose tile loosened empty
    left
    rw [loosened.tiles, empty]
  put := by
    intro floor loose place counterpart loosened same box
    refine ⟨loosened.bound, loosened.wider, ?_⟩
    simp only [put, same, loosened.tiles]

/-- A floor may be loosened to any bound that covers its tiles. -/
def Floor.loosen (floor : Floor) (bound : Option Nat)
    (wider : ∀ tile, covers floor.bound tile = true → covers bound tile = true) : Floor where
  tiles := floor.tiles
  bound := bound
  covered := fun tile occupied => wider tile (floor.covered tile occupied)

theorem Floor.Holds.loosen {floor : Floor} {initial : Table Int Box} (holds : floor.Holds initial)
    {bound : Option Nat}
    (wider : ∀ tile, covers floor.bound tile = true → covers bound tile = true) :
    (floor.loosen bound wider).Holds initial where
  placed := by
    intro entry member
    obtain ⟨tile, same, covered⟩ := holds.placed entry member
    exact ⟨tile, same, wider tile covered⟩
  tiles := holds.tiles

/-- A bound is at least as loose as another one if there is none or it is not below the other one. -/
def IsLooser (loose bound : Option Int) : Prop :=
  ∀ last, loose = some last → ∃ earlier, bound = some earlier ∧ earlier ≤ last

theorem IsLooser.exists_bound {loose : Option Int} {bound : Option Nat}
    (looser : IsLooser loose (bound.map Int.ofNat)) :
    ∃ last : Option Nat, last.map Int.ofNat = loose ∧
      ∀ tile, covers bound tile = true → covers last tile = true := by
  cases loose with
  | none => exact ⟨none, rfl, fun _ _ => rfl⟩
  | some last =>
      obtain ⟨earlier, given, least⟩ := looser last rfl
      obtain ⟨limit, isBound, same⟩ := Option.map_eq_some_iff.mp given
      subst same isBound
      change (limit : Int) ≤ last at least
      refine ⟨some last.toNat, congrArg some (Int.toNat_of_nonneg (by omega)), ?_⟩
      intro tile covered
      have inside : tile ≤ limit := of_decide_eq_true covered
      exact decide_eq_true (by omega)

namespace Machine

variable {program : Program} {initial : Table Int Box} {inbox : List Box}
variable {bound looseBound : Option Int} {machine : Machine}

/-- A machine that fails at a negative address also fails on a loosened floor. -/
theorem FailsAt.loosened {last : Option Nat} {floor : Floor} {instruction : Instruction}
    {address : Int} {reported : Option Nat}
    (fails : machine.FailsAt instruction (.fault (.tile (.outside address reported))))
    (loosened : Floor.Loosened last machine.floor floor) (negative : address < 0) :
    (machine.withFloor floor).FailsAt instruction (.fault (.tile (.outside address last))) := by
  obtain ⟨current, failed⟩ := failsAt_iff.mp fails
  have agree := matches_effect (Floor.accepts_loosened last) loosened instruction
  rw [failed] at agree
  generalize followed : (machine.withFloor floor).effect instruction = second at agree
  cases agree with
  | failed translated =>
      rw [translated] at followed
      exact failsAt_iff.mpr ⟨current, followed⟩
  | excused isExcused =>
      obtain ⟨tile, other, same⟩ := isExcused
      have sameAddress : address = tile := (TileError.outside.inj same).1
      omega

/-- Only an address outside the floor has a fault of this kind. -/
theorem exists_outside_of_kind {cause : Cause} (kind : cause.kind = .addressOutOfRange) :
    ∃ address reported, cause = .tile (.outside address reported) := by
  cases cause with
  | emptyHand => cases kind
  | letterInHand opcode letter => cases kind
  | arithmetic error => cases error <;> cases kind
  | tile error =>
      cases error with
      | outside address reported => exact ⟨address, reported, rfl⟩
      | empty address => cases kind
      | emptyPointer address => cases kind
      | letterPointer address letter => cases kind

/-- A machine can also be built with a looser bound, and its runs have the same outcomes unless the
run with the tighter bound comes to an address outside its floor. Both machines go through the same
states up to there, and they share the fault if the address is negative. -/
theorem run_with_looser_bound (built : build program initial inbox bound = .ok machine)
    (looser : IsLooser looseBound bound) :
    ∃ loose last, build program initial inbox looseBound = .ok loose ∧
      last.map Int.ofNat = looseBound ∧
      (∀ limit patience, ¬(machine.run limit patience).FaultsWith .addressOutOfRange →
        ∃ floor, loose.run limit patience =
            ⟨(machine.run limit patience).outcome,
              (machine.run limit patience).machine.withFloor floor⟩ ∧
          Floor.Loosened last (machine.run limit patience).machine.floor floor) ∧
      (∀ count left, WalksTo count machine left →
        ∃ floor, WalksTo count loose (left.withFloor floor) ∧
          Floor.Loosened last left.floor floor) ∧
      ∀ limit patience fault left, machine.run limit patience = ⟨.faulted fault, left⟩ →
        fault.kind = .addressOutOfRange →
        ∃ count instruction address reported floor, WalksTo count machine left ∧
          left.FailsAt instruction (.fault (.tile (.outside address reported))) ∧
          WalksTo count loose (left.withFloor floor) ∧ Floor.Loosened last left.floor floor ∧
          (address < 0 → ∃ follower,
            loose.run limit patience = ⟨.faulted follower, left.withFloor floor⟩ ∧
              follower.kind = fault.kind ∧ follower.position = fault.position) := by
  obtain ⟨floor, sameBound, holds, same⟩ := build_eq_ok_iff.mp built
  rw [← sameBound] at looser
  obtain ⟨last, isLast, wider⟩ := looser.exists_bound
  have loosened : Floor.Loosened last floor (floor.loosen last wider) := ⟨rfl, wider, rfl⟩
  have accepts := Floor.accepts_loosened last
  have unstopped : (start program floor inbox).stop = none := rfl
  refine ⟨(start program floor inbox).withFloor (floor.loosen last wider), last, ?_, isLast, ?_⟩
  · exact build_eq_ok_iff.mpr ⟨_, isLast, holds.loosen wider, rfl⟩
  rw [← same]
  refine ⟨?_, ?_, ?_⟩
  · intro limit patience unparted
    exact run_withFloor accepts loosened unstopped unparted
  · intro count left walks
    exact walks.withFloor accepts loosened
  · intro limit patience fault left ran kind
    obtain ⟨count, instruction, cause, within, walks, fails, told⟩ :=
      failsAt_of_run_faulted unstopped (congrArg RunReport.outcome ran)
    rw [ran] at walks fails told
    have causeKind : cause.kind = .addressOutOfRange := by
      rw [told] at kind
      exact kind
    obtain ⟨address, reported, isOutside⟩ := exists_outside_of_kind causeKind
    subst isOutside
    obtain ⟨looseFloor, followed, stillLoosened⟩ := walks.withFloor accepts loosened
    refine ⟨count, instruction, address, reported, looseFloor, walks, fails, followed,
      stillLoosened, ?_⟩
    intro negative
    have followerFails := fails.loosened stillLoosened negative
    have followerUnstopped :
        ((start program floor inbox).withFloor (floor.loosen last wider)).stop = none := rfl
    refine ⟨_, (run_eq_iff followerUnstopped).mpr (.faulted within followed followerFails), ?_, ?_⟩
    · exact kind.symm
    · rw [told]
      rfl

/-- This program follows the pointer on the first tile. -/
def followerProgram : Program where
  instructions := #[{ opcode := .copyFrom, address := some ⟨0, true⟩ }]
  labels := .empty

/-- The pointer of this machine leads before the first tile. -/
def lostMachine : Machine :=
  start followerProgram
    ((Floor.bare (some 0)).put ⟨0, rfl⟩ (.number ⟨-1, by decide, by decide⟩)) []

theorem run_with_looser_bound_lost :
    ∃ loose follower left, build followerProgram
        ⟨[(0, .number ⟨-1, by decide, by decide⟩)], by decide⟩ [] none = .ok loose ∧
      loose.run none 1 = ⟨.faulted follower, left⟩ ∧ follower.kind = .addressOutOfRange ∧
      follower.position = 0 := by
  have built : build followerProgram ⟨[(0, .number ⟨-1, by decide, by decide⟩)], by decide⟩ []
      (some 0) = .ok lostMachine := rfl
  have looser : IsLooser none (some 0) := nofun
  obtain ⟨loose, last, builtLoose, -, -, -, lost⟩ := run_with_looser_bound built looser
  obtain ⟨count, instruction, address, reported, floor, -, fails, -, -, follows⟩ :=
    lost none 1 _ _ rfl rfl
  obtain ⟨current, failed⟩ := failsAt_iff.mp fails
  cases current
  have negative : address < 0 := by
    cases failed
    decide
  obtain ⟨follower, ran, kind, position⟩ := follows negative
  exact ⟨loose, follower, _, builtLoose, ran, kind, position⟩

end Machine

end OfficeMachine
