/-
This file collects what a floor promises. An address resolves to a tile on the floor, writing there
succeeds, and no write changes the bound.
-/

import OfficeMachine.Floor
import OfficeMachine.Proofs.Outcome

namespace OfficeMachine.Floor

variable {floor : Floor}

/-- The address of a covered tile has a place. -/
theorem place_of_covers {tile : Nat} (covered : covers floor.bound tile = true) :
    floor.place (tile : Int) = .ok ⟨tile, covered⟩ := by
  unfold place place?
  simp [covered]

theorem place_of_not_covers {tile : Nat} (beyond : covers floor.bound tile = false) :
    floor.place (tile : Int) = .error (.outside tile floor.bound) := by
  unfold place place?
  simp [beyond]

/-- An address has exactly the place with its number. -/
theorem place?_eq_some_iff {address : Int} {place : floor.Place} :
    floor.place? address = some place ↔ (place.val : Int) = address := by
  obtain ⟨tile, covered⟩ := place
  cases address with
  | negSucc number => simp [place?]
  | ofNat number =>
      simp only [place?, Option.dite_none_right_eq_some, Option.some.injEq, Subtype.mk.injEq,
        Int.ofNat_eq_natCast, Int.natCast_inj]
      constructor
      · rintro ⟨-, same⟩
        exact same.symm
      · rintro rfl
        exact ⟨covered, rfl⟩

theorem place_eq_ok {address : Int} {place : floor.Place}
    (found : floor.place address = .ok place) : (place.val : Int) = address := by
  rw [← place?_eq_some_iff]
  unfold Floor.place at found
  split at found
  · rename_i given
    rw [given, Except.ok.inj found]
  · cases found

/-- An address resolves to a covered tile, which the address or a number names. -/
theorem resolve_eq_ok {address : Address} {tile : Nat}
    (found : floor.resolve address = .ok tile) :
    covers floor.bound tile = true ∧
      ((tile : Int) = address.index ∨ ∃ number : Number, (tile : Int) = number.value) := by
  have named {index : Int} (placed : (floor.place index).map Subtype.val = .ok tile) :
      covers floor.bound tile = true ∧ (tile : Int) = index := by
    obtain ⟨place, given, same⟩ := map_eq_ok_iff.mp placed
    rw [← same]
    exact ⟨place.property, place_eq_ok given⟩
  unfold resolve at found
  split at found
  · obtain ⟨content, -, pointed⟩ := bind_eq_ok_iff.mp found
    match content with
    | none => cases pointed
    | some (.letter letter) => cases pointed
    | some (.number number) =>
        obtain ⟨covered, same⟩ := named pointed
        exact ⟨covered, Or.inr ⟨number, same⟩⟩
  · obtain ⟨covered, same⟩ := named found
    exact ⟨covered, Or.inl same⟩

/-- A write to a tile that an address resolved to does not fail. -/
theorem write_of_resolve {address : Address} {tile : Nat}
    (found : floor.resolve address = .ok tile) (box : Box) :
    floor.write tile box = .ok (floor.put ⟨tile, (resolve_eq_ok found).1⟩ box) := by
  rw [write, place_of_covers (resolve_eq_ok found).1]
  rfl

theorem bound_of_write {written : Floor} {address : Int} {box : Box}
    (success : floor.write address box = .ok written) : written.bound = floor.bound := by
  obtain ⟨place, -, same⟩ := map_eq_ok_iff.mp success
  rw [← same]
  rfl

end OfficeMachine.Floor
