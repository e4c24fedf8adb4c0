/-
This file says which floor a layout gives. The boxes of the table come to their tiles, whatever the
order in which the table lists them.
-/

import OfficeMachine.Proofs.Floor
import OfficeMachine.Proofs.Table

namespace OfficeMachine

namespace Floor

variable {floor next : Floor}

/-- A floor is its bound and the contents of its tiles. -/
theorem ext {first second : Floor} (sameBound : first.bound = second.bound)
    (sameTiles : ∀ tile : Nat, first.tiles[tile]? = second.tiles[tile]?) : first = second := by
  obtain ⟨tiles, bound, covered⟩ := first
  obtain ⟨otherTiles, otherBound, otherCovered⟩ := second
  cases sameBound
  cases Std.ExtTreeMap.ext_getElem? sameTiles
  rfl

theorem getElem?_put (place : floor.Place) (box : Box) (tile : Nat) :
    (floor.put place box).tiles[tile]? =
      if place.val = tile then some box else floor.tiles[tile]? := by
  simp only [put, Std.ExtTreeMap.getElem?_insert, Std.LawfulEqCmp.compare_eq_iff_eq]

/-- One box is laid if its tile lies on the floor. -/
theorem layOne_eq_ok_iff {entry : Int × Box} :
    floor.layOne entry = .ok next ↔
      ∃ place : floor.Place, (place.val : Int) = entry.1 ∧ floor.put place entry.2 = next := by
  unfold layOne
  cases found : floor.place? entry.1 with
  | some place =>
      constructor
      · intro laid
        exact ⟨place, place?_eq_some_iff.mp found, Except.ok.inj laid⟩
      · rintro ⟨other, same, put⟩
        rw [← place?_eq_some_iff, found] at same
        rw [← put, Option.some.inj same]
  | none =>
      constructor
      · intro laid
        simp only at laid
        split at laid
        · split at laid <;> cases laid
        · cases laid
      · rintro ⟨place, same, -⟩
        rw [← place?_eq_some_iff, found] at same
        cases same

/-- The entry of a list for a tile, if there is one, is what was laid there. -/
def entryAt (entries : List (Int × Box)) (tile : Nat) : Option Box :=
  (entries.find? fun entry => entry.1 = (tile : Int)).map Prod.snd

theorem entryAt_eq_none {entries : List (Int × Box)} {tile : Nat}
    (missing : (tile : Int) ∉ entries.map Prod.fst) : entryAt entries tile = none := by
  rw [entryAt, Option.map_eq_none_iff, List.find?_eq_none]
  intro entry member same
  rw [decide_eq_true_eq] at same
  exact missing (same ▸ List.mem_map_of_mem member)

/-- The first entry may be laid before the others are. -/
theorem entryAt_cons_or {entry : Int × Box} {rest : List (Int × Box)} {place : floor.Place}
    (fresh : entry.1 ∉ rest.map Prod.fst) (same : (place.val : Int) = entry.1) (tile : Nat) :
    (entryAt (entry :: rest) tile).or floor.tiles[tile]? =
      (entryAt rest tile).or (floor.put place entry.2).tiles[tile]? := by
  rw [getElem?_put]
  by_cases here : place.val = tile
  · subst here
    have nothing : entryAt rest place.val = none := entryAt_eq_none (same ▸ fresh)
    rw [nothing]
    simp [entryAt, same]
  · have elsewhere : ¬entry.1 = (tile : Int) := by omega
    simp [entryAt, here, elsewhere]

/-- A list of boxes for distinct tiles is laid if all of the tiles lie on the floor. -/
theorem foldlM_layOne_eq_ok_iff {entries : List (Int × Box)}
    (distinct : (entries.map Prod.fst).Nodup) :
    entries.foldlM layOne floor = .ok next ↔
      next.bound = floor.bound ∧
        (∀ entry ∈ entries, ∃ tile : Nat, entry.1 = tile ∧ covers floor.bound tile = true) ∧
        ∀ tile : Nat, next.tiles[tile]? = (entryAt entries tile).or floor.tiles[tile]? := by
  induction entries generalizing floor with
  | nil =>
      rw [List.foldlM_nil]
      constructor
      · intro laid
        rw [← Except.ok.inj laid]
        exact ⟨rfl, List.forall_mem_nil _, fun tile => rfl⟩
      · rintro ⟨sameBound, -, sameTiles⟩
        exact congrArg Except.ok (ext sameBound.symm fun tile => (sameTiles tile).symm)
  | cons entry rest inductionHypothesis =>
      rw [List.map_cons, List.nodup_cons] at distinct
      rw [List.foldlM_cons, bind_eq_ok_iff, List.forall_mem_cons]
      constructor
      · rintro ⟨middle, one, others⟩
        obtain ⟨place, same, put⟩ := layOne_eq_ok_iff.mp one
        subst put
        obtain ⟨sameBound, placed, sameTiles⟩ := (inductionHypothesis distinct.2).mp others
        refine ⟨sameBound, ⟨⟨place.val, same.symm, place.property⟩, placed⟩, ?_⟩
        intro tile
        rw [sameTiles, entryAt_cons_or distinct.1 same]
      · rintro ⟨sameBound, ⟨⟨tile, same, covered⟩, placed⟩, sameTiles⟩
        let place : floor.Place := ⟨tile, covered⟩
        refine ⟨floor.put place entry.2, layOne_eq_ok_iff.mpr ⟨place, same.symm, rfl⟩, ?_⟩
        refine (inductionHypothesis distinct.2).mpr ⟨sameBound, placed, ?_⟩
        intro tile
        rw [sameTiles]
        exact entryAt_cons_or distinct.1 same.symm tile

/-- A floor holds a table if the tiles of all entries lie on it and each tile has what the table has
for it. -/
structure Holds (floor : Floor) (initial : Table Int Box) : Prop where
  placed : ∀ entry ∈ initial.entries,
    ∃ tile : Nat, entry.1 = tile ∧ covers floor.bound tile = true
  tiles : ∀ tile : Nat, floor.tiles[tile]? = initial.find? tile

theorem getElem?_bare (bound : Option Nat) (tile : Nat) : (bare bound).tiles[tile]? = none :=
  Std.ExtTreeMap.getElem?_empty

/-- A layout gives exactly the floor with the bound that holds the table. -/
theorem lay_eq_ok_iff {initial : Table Int Box} {bound : Option Int} :
    lay initial bound = .ok floor ↔ floor.bound.map Int.ofNat = bound ∧ floor.Holds initial := by
  have laid (last : Option Nat) : initial.entries.foldlM layOne (bare last) = .ok floor ↔
      floor.bound = last ∧ floor.Holds initial := by
    rw [foldlM_layOne_eq_ok_iff initial.distinct]
    constructor
    · rintro ⟨sameBound, placed, sameTiles⟩
      refine ⟨sameBound, sameBound ▸ placed, ?_⟩
      intro tile
      rw [sameTiles, getElem?_bare, Option.or_none]
      rfl
    · rintro ⟨sameBound, placed, sameTiles⟩
      refine ⟨sameBound, sameBound ▸ placed, ?_⟩
      intro tile
      rw [sameTiles, getElem?_bare, Option.or_none]
      rfl
  unfold lay
  match bound with
  | none => simp [laid]
  | some (.ofNat last) =>
      have named : floor.bound.map Int.ofNat = some (.ofNat last) ↔ floor.bound = some last :=
        (Option.map_injective fun _ _ => Int.ofNat.inj).eq_iff (b := some last)
      rw [laid, named]
  | some (.negSucc last) => simp

end Floor

end OfficeMachine
