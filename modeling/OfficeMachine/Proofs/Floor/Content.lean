/-
This file looks at a floor as a function from all whole numbers to boxes. Every operation of the
floor is told by this function and the bound alone.
-/

import Mathlib.Logic.Function.Basic
import Mathlib.Tactic.ByContra
import OfficeMachine.Proofs.Floor.Layout

namespace OfficeMachine

/-- An address is within a bound if it is not negative and not beyond the bound. -/
def IsWithin (bound : Option Nat) (address : Int) : Prop :=
  0 ≤ address ∧ ∀ last : Nat, bound = some last → address ≤ last

theorem isWithin_natCast_iff {bound : Option Nat} {tile : Nat} :
    IsWithin bound (tile : Int) ↔ covers bound tile = true := by
  cases bound with
  | none => simp [IsWithin, covers]
  | some last => simp [IsWithin, covers]

/-- An address within a bound is the number of a covered tile. -/
theorem IsWithin.exists_tile {bound : Option Nat} {address : Int}
    (within : IsWithin bound address) :
    ∃ tile : Nat, address = tile ∧ covers bound tile = true := by
  obtain ⟨tile, same⟩ := Int.eq_ofNat_of_zero_le within.1
  rw [same] at within ⊢
  exact ⟨tile, rfl, isWithin_natCast_iff.mp within⟩

namespace Floor

/-- The content of an address is the box on its tile. No other address has one. -/
def content (floor : Floor) : Int → Option Box
  | .ofNat tile => floor.tiles[tile]?
  | .negSucc _ => none

variable {floor changed : Floor} {address : Int}

/-- Boxes lie only on tiles of the floor. -/
theorem content_of_not_isWithin (outside : ¬IsWithin floor.bound address) :
    floor.content address = none := by
  cases address with
  | negSucc number => rfl
  | ofNat tile =>
      apply Std.ExtTreeMap.getElem?_eq_none
      intro occupied
      exact outside (isWithin_natCast_iff.mpr (floor.covered tile occupied))

theorem isWithin_of_content {box : Box} (occupied : floor.content address = some box) :
    IsWithin floor.bound address := by
  by_contra outside
  rw [content_of_not_isWithin outside] at occupied
  cases occupied

/-- A floor is its content and its bound. -/
theorem ext_content {first second : Floor} (sameBound : first.bound = second.bound)
    (sameContent : first.content = second.content) : first = second := by
  apply ext sameBound
  intro tile
  exact congrFun sameContent (tile : Int)

theorem place_of_isWithin (within : IsWithin floor.bound address) :
    ∃ place : floor.Place, floor.place address = .ok place ∧ (place.val : Int) = address := by
  obtain ⟨tile, same, covered⟩ := within.exists_tile
  rw [same]
  exact ⟨⟨tile, covered⟩, place_of_covers covered, rfl⟩

theorem place_of_not_isWithin (outside : ¬IsWithin floor.bound address) :
    floor.place address = .error (.outside address floor.bound) := by
  cases address with
  | negSucc number => rfl
  | ofNat tile =>
      change ¬IsWithin floor.bound (tile : Int) at outside
      rw [isWithin_natCast_iff, Bool.not_eq_true] at outside
      exact place_of_not_covers outside

theorem get_of_isWithin (within : IsWithin floor.bound address) :
    floor.get address = .ok (floor.content address) := by
  obtain ⟨place, found, same⟩ := place_of_isWithin within
  rw [get, found, ← same]
  rfl

theorem get_of_not_isWithin (outside : ¬IsWithin floor.bound address) :
    floor.get address = .error (.outside address floor.bound) := by
  rw [get, place_of_not_isWithin outside]
  rfl

theorem read_of_content {box : Box} (occupied : floor.content address = some box) :
    floor.read address = .ok box := by
  rw [read, get_of_isWithin (isWithin_of_content occupied), occupied]
  rfl

theorem read_of_empty (within : IsWithin floor.bound address)
    (empty : floor.content address = none) : floor.read address = .error (.empty address) := by
  rw [read, get_of_isWithin within, empty]
  rfl

theorem read_of_not_isWithin (outside : ¬IsWithin floor.bound address) :
    floor.read address = .error (.outside address floor.bound) := by
  rw [read, get_of_not_isWithin outside]
  rfl

/-- An update puts a box at one address and leaves the bound and all other addresses alone. -/
structure IsUpdated (floor : Floor) (address : Int) (box : Box) (changed : Floor) : Prop where
  bound : changed.bound = floor.bound
  content : changed.content = Function.update floor.content address (some box)

theorem IsUpdated.unique {box : Box} {other : Floor}
    (updated : floor.IsUpdated address box changed) (too : floor.IsUpdated address box other) :
    changed = other :=
  ext_content (updated.bound.trans too.bound.symm) (updated.content.trans too.content.symm)

/-- A box on an updated floor is the new one or was there before. -/
theorem IsUpdated.content_eq_or {box other : Box} {tile : Int}
    (updated : floor.IsUpdated address box changed) (occupied : changed.content tile = some other) :
    box = other ∨ floor.content tile = some other := by
  rw [updated.content] at occupied
  by_cases same : tile = address
  · rw [same, Function.update_self] at occupied
    exact Or.inl (Option.some.inj occupied)
  · rw [Function.update_of_ne same] at occupied
    exact Or.inr occupied

theorem isUpdated_put (place : floor.Place) (box : Box) :
    floor.IsUpdated place.val box (floor.put place box) := by
  refine ⟨rfl, ?_⟩
  funext address
  cases address with
  | negSucc number =>
      rw [Function.update_of_ne (by omega)]
      rfl
  | ofNat tile =>
      change (floor.put place box).tiles[tile]? =
        Function.update floor.content (place.val : Int) (some box) (tile : Int)
      rw [getElem?_put]
      by_cases same : place.val = tile
      · rw [if_pos same, same, Function.update_self]
      · rw [if_neg same, Function.update_of_ne (by omega)]
        rfl

theorem write_of_isWithin (within : IsWithin floor.bound address) (box : Box) :
    ∃ changed, floor.write address box = .ok changed ∧ floor.IsUpdated address box changed := by
  obtain ⟨place, found, same⟩ := place_of_isWithin within
  refine ⟨floor.put place box, ?_, ?_⟩
  · rw [write, found]
    rfl
  · rw [← same]
    exact isUpdated_put place box

theorem write_of_not_isWithin (outside : ¬IsWithin floor.bound address) (box : Box) :
    floor.write address box = .error (.outside address floor.bound) := by
  rw [write, place_of_not_isWithin outside]
  rfl

theorem write_eq_ok_iff {box : Box} :
    floor.write address box = .ok changed ↔
      IsWithin floor.bound address ∧ floor.IsUpdated address box changed := by
  by_cases within : IsWithin floor.bound address
  · obtain ⟨written, success, updated⟩ := write_of_isWithin within box
    rw [success, Except.ok.injEq]
    constructor
    · rintro rfl
      exact ⟨within, updated⟩
    · rintro ⟨-, too⟩
      exact updated.unique too
  · rw [write_of_not_isWithin within]
    simp [within]

/-- An address locates the tile with its index or, if it is indirect, the tile whose number lies on
the pointer tile. -/
inductive Locates (floor : Floor) : Address → Int → Prop where
  | direct {index : Int} (within : IsWithin floor.bound index) :
      floor.Locates ⟨index, false⟩ index
  | indirect {index : Int} {number : Number}
      (pointer : floor.content index = some (.number number))
      (within : IsWithin floor.bound number.value) : floor.Locates ⟨index, true⟩ number.value

theorem Locates.isWithin {given : Address} (located : floor.Locates given address) :
    IsWithin floor.bound address := by
  cases located with
  | direct within => exact within
  | indirect pointer within => exact within

theorem Locates.unique {given : Address} {other : Int} (located : floor.Locates given address)
    (too : floor.Locates given other) : address = other := by
  cases located with
  | direct _ =>
      cases too
      rfl
  | indirect pointer _ =>
      cases too with
      | indirect same _ =>
          rw [pointer] at same
          cases same
          rfl

theorem resolve_direct (floor : Floor) (index : Int) :
    floor.resolve ⟨index, false⟩ = (floor.place index).map Subtype.val := rfl

theorem resolve_of_pointer {index : Int} {number : Number}
    (pointer : floor.content index = some (.number number)) :
    floor.resolve ⟨index, true⟩ = (floor.place number.value).map Subtype.val := by
  rw [resolve, if_pos rfl, get_of_isWithin (isWithin_of_content pointer), pointer]
  rfl

theorem resolve_of_letter {index : Int} {letter : Letter}
    (pointer : floor.content index = some (.letter letter)) :
    floor.resolve ⟨index, true⟩ = .error (.letterPointer index letter) := by
  rw [resolve, if_pos rfl, get_of_isWithin (isWithin_of_content pointer), pointer]
  rfl

theorem resolve_of_empty {index : Int} (within : IsWithin floor.bound index)
    (empty : floor.content index = none) :
    floor.resolve ⟨index, true⟩ = .error (.emptyPointer index) := by
  rw [resolve, if_pos rfl, get_of_isWithin within, empty]
  rfl

theorem resolve_of_not_isWithin (outside : ¬IsWithin floor.bound address) (indirect : Bool) :
    floor.resolve ⟨address, indirect⟩ = .error (.outside address floor.bound) := by
  cases indirect with
  | false =>
      rw [resolve_direct, place_of_not_isWithin outside]
      rfl
  | true =>
      rw [resolve, if_pos rfl, get_of_not_isWithin outside]
      rfl

/-- Looking for the place of a number within the bound gives the number. -/
theorem map_place_of_isWithin (within : IsWithin floor.bound address) :
    ∃ tile : Nat, (floor.place address).map Subtype.val = .ok tile ∧ (tile : Int) = address := by
  obtain ⟨place, found, same⟩ := place_of_isWithin within
  exact ⟨place.val, by rw [found]; rfl, same⟩

/-- An address that locates a tile resolves to it. -/
theorem Locates.resolve {given : Address} (located : floor.Locates given address) :
    ∃ tile : Nat, floor.resolve given = .ok tile ∧ (tile : Int) = address := by
  cases located with
  | direct within =>
      rw [resolve_direct]
      exact map_place_of_isWithin within
  | indirect pointer within =>
      rw [resolve_of_pointer pointer]
      exact map_place_of_isWithin within

end Floor

end OfficeMachine
