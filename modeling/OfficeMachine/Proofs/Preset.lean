/-
This file reads presets back. The text of a box denotes the box, and a written inbox and a written
floor are split into the tokens that they come from.
-/

import OfficeMachine.Proofs.Box.Arithmetic
import OfficeMachine.Proofs.Floor.Layout
import OfficeMachine.Proofs.Preset.Tokens

namespace OfficeMachine

open Numeral

/-- The limit of the digits leaves room for every number in range. -/
theorem Number.natAbs_lt (number : Number) : number.value.natAbs < Nat.pow 10 digitLimit :=
  isWritable_iff.mp number.isWritable_value

/-- An integer is written as a numeral with the digits of its magnitude. -/
theorem isNumeral_toString (number : Int) :
    IsNumeral (toString number).toList (Nat.toDigits 10 number.natAbs) number := by
  obtain ⟨magnitude, ⟨same, text⟩ | ⟨same, text⟩⟩ := exists_magnitude number
  · have isNumeral := IsNumeral.plain (isDigits_toDigits magnitude)
    rw [value_toDigits] at isNumeral
    rwa [text, same, Int.natAbs_natCast]
  · have isNumeral := IsNumeral.minus (isDigits_toDigits magnitude)
    rw [value_toDigits] at isNumeral
    rwa [text, same, Int.natAbs_neg, Int.natAbs_natCast]

/-- The text of a box denotes the box. -/
theorem Box.denotes_text (box : Box) : Denotes box.text.toList box := by
  cases box with
  | letter content =>
      change Denotes (String.singleton content.character).toList _
      rw [String.toList_singleton]
      exact .capital content.atLeast content.atMost
  | number content =>
      have short := length_toDigits_le (by decide) content.natAbs_lt
      exact .numeral (isNumeral_toString content.value) short content.atLeast content.atMost

theorem trim_of_isWord {text : List Char} (isWord : Text.IsWord text) : Text.trim text = text :=
  (Text.words_eq_singleton_iff.mp (Text.words_of_isWord isWord)).1

theorem Box.denotes_trim_text (box : Box) : Denotes (Text.trim box.text.toList) box := by
  rw [trim_of_isWord box.denotes_text.isCompact.isWord]
  exact box.denotes_text

namespace Preset

/-- The inbox is read back from the texts of its boxes. -/
theorem inbox_texts (boxes : List Box) : inbox (boxes.map Box.text) = .ok boxes := by
  rw [inbox_eq_ok_iff, List.forall₂_map_left_iff, List.forall₂_same]
  intro box _
  exact box.denotes_trim_text

/-- The texts of boxes are the words of the written boxes. -/
theorem wordTexts_boxesText (boxes : List Box) :
    Text.wordTexts (boxesText boxes) = boxes.map Box.text := by
  apply Text.wordTexts_intercalate
  intro text member
  obtain ⟨box, -, rfl⟩ := List.mem_map.mp member
  exact box.denotes_text.isCompact.isWord

/-- The tokens of tiles are their addresses and their boxes, one behind the other. -/
def tokens (entries : List (Int × Box)) : List String :=
  entries.flatMap fun entry => [toString entry.1, entry.2.text]

/-- The token of a writable address and the text of a box make a tile. -/
theorem isTile_text {address : Nat} (small : address < Nat.pow 10 digitLimit) (box : Box) :
    IsTile (toString (address : Int)) box.text (address, box) := by
  have digits : (toString (address : Int)).toList = Nat.toDigits 10 address :=
    toList_toString address
  have isNumber := isDigits_toDigits address
  have isWord := (isNumeral_toString address).isCompact.isWord
  have trimmed : Text.trim (toString (address : Int)).toList = Nat.toDigits 10 address := by
    rw [trim_of_isWord isWord, digits]
  have isAddress : IsAddress (Text.trim (toString (address : Int)).toList) := by
    rw [trimmed]
    exact ⟨isNumber, length_toDigits_le (by decide) small⟩
  have isTile := IsTile.intro isAddress box.denotes_trim_text
  rwa [trimmed, value_toDigits] at isTile

theorem pairsUp_tokens {pairs : List (Nat × Box)}
    (small : ∀ pair ∈ pairs, pair.1 < Nat.pow 10 digitLimit) :
    PairsUp (tokens (pairs.map fun pair => ((pair.1 : Int), pair.2))) pairs := by
  induction pairs with
  | nil => exact .nil
  | cons pair rest inductionHypothesis =>
      obtain ⟨first, others⟩ := List.forall_mem_cons.mp small
      exact .cons (isTile_text first pair.2) (inductionHypothesis others)

/-- A table is read back from the tokens of its layout, in the same order. -/
theorem tiles_tokens_layout {table : Table Nat Box}
    (small : ∀ entry ∈ table.entries, entry.1 < Nat.pow 10 digitLimit) :
    tiles (tokens (layout table).entries) = .ok table :=
  tiles_eq_ok_iff.mpr ⟨table.entries, pairsUp_tokens small, table.collects_entries⟩

/-- A table without negative addresses is the layout of a floor. -/
theorem exists_layout_eq {initial : Table Int Box} (start : ∀ entry ∈ initial.entries, 0 ≤ entry.1) :
    ∃ table, layout table = initial := by
  have cast : (initial.entries.map fun entry => (entry.1.toNat, entry.2)).map
      (fun entry => ((entry.1 : Int), entry.2)) = initial.entries := by
    rw [List.map_map]
    refine (List.map_congr_left ?_).trans (List.map_id _)
    intro entry member
    exact Prod.ext (Int.toNat_of_nonneg (start entry member)) rfl
  have distinct : ((initial.entries.map fun entry => (entry.1.toNat, entry.2)).map Prod.fst).Nodup := by
    apply List.Nodup.of_map (fun (address : Nat) => (address : Int))
    have keys := initial.distinct
    rw [← cast, List.map_map] at keys
    rwa [List.map_map]
  exact ⟨⟨_, distinct⟩, Table.ext cast⟩

/-- Writable tiles are read back from their tokens. -/
theorem tiles_tokens {initial : Table Int Box}
    (writable : ∀ entry ∈ initial.entries, 0 ≤ entry.1 ∧ isWritable entry.1 = true) :
    ∃ table, tiles (tokens initial.entries) = .ok table ∧ layout table = initial := by
  obtain ⟨table, rfl⟩ := exists_layout_eq fun entry member => (writable entry member).1
  refine ⟨table, tiles_tokens_layout ?_, rfl⟩
  intro entry member
  have short := (writable ((entry.1 : Int), entry.2) (List.mem_map_of_mem member)).2
  exact isWritable_iff.mp short

/-- The text of a tile has its equals sign between its two tokens. -/
theorem toList_tileText (entry : Int × Box) :
    (tileText entry).toList = (toString entry.1).toList ++ '=' :: entry.2.text.toList := by
  change (toString entry.1 ++ "=" ++ entry.2.text).toList = _
  simp

theorem isWord_tileText (entry : Int × Box) : Text.IsWord (tileText entry).toList := by
  have address := (isNumeral_toString entry.1).isCompact.isWord
  have box := entry.2.denotes_text.isCompact.isWord
  rw [toList_tileText]
  refine ⟨by simp, List.forall_mem_append.mpr ⟨address.2, ?_⟩⟩
  exact List.forall_mem_cons.mpr ⟨by decide, box.2⟩

/-- The tokens of a written floor are the pieces of its words between the equals signs. -/
def splitTiles (text : String) : List String :=
  (Text.wordTexts text).flatMap fun word =>
    (Text.pieces (· = '=') word.toList).map String.ofList

/-- A compact text has no equals sign, so it is one piece. -/
theorem pieces_of_isCompact {text : List Char} (isCompact : IsCompact text) :
    Text.pieces (· = '=') text = [text] := by
  apply Text.pieces_of_clean
  intro character member
  rw [decide_eq_false_iff_not]
  rintro rfl
  cases isCompact.plain '=' member (by decide)

theorem splitTiles_tilesText (entries : List (Int × Box)) :
    splitTiles (tilesText entries) = tokens entries := by
  have isWord : ∀ text ∈ entries.map tileText, Text.IsWord text.toList := by
    intro text member
    obtain ⟨entry, -, rfl⟩ := List.mem_map.mp member
    exact isWord_tileText entry
  rw [splitTiles, tilesText, Text.wordTexts_intercalate isWord, List.flatMap_map, tokens]
  apply List.flatMap_congr
  intro entry _
  rw [toList_tileText, Text.pieces_append_separator _ _ _ _ rfl,
    pieces_of_isCompact (isNumeral_toString entry.1).isCompact,
    pieces_of_isCompact entry.2.denotes_text.isCompact]
  simp

/-- The entries of a snapshot are a table, since each tile is listed once. -/
def snapshotTable (floor : Floor) : Table Nat Box where
  entries := floor.snapshot
  distinct := by
    rw [Floor.snapshot, Std.ExtTreeMap.map_fst_toList_eq_keys]
    exact Std.ExtTreeMap.nodup_keys

/-- A floor is laid out anew from its snapshot, also with another bound that covers its boxes. -/
theorem lay_snapshotTable {floor : Floor} {bound : Option Nat}
    (covered : ∀ entry ∈ floor.snapshot, covers bound entry.1 = true) :
    ∃ laid, Floor.lay (layout (snapshotTable floor)) (bound.map Int.ofNat) = .ok laid ∧
      laid.bound = bound ∧ laid.tiles = floor.tiles := by
  have inside : ∀ address, address ∈ floor.tiles → covers bound address = true := by
    intro address member
    obtain ⟨box, found⟩ :=
      Option.isSome_iff_exists.mp (Std.ExtTreeMap.mem_iff_isSome_getElem?.mp member)
    exact covered (address, box) (Std.ExtTreeMap.mem_toList_iff_getElem?_eq_some.mpr found)
  refine ⟨⟨floor.tiles, bound, inside⟩, Floor.lay_eq_ok_iff.mpr ⟨rfl, ?_, ?_⟩, rfl, rfl⟩
  · intro entry member
    obtain ⟨pair, listed, rfl⟩ := List.mem_map.mp member
    exact ⟨pair.1, rfl, covered pair listed⟩
  · intro tile
    apply Option.ext
    intro box
    rw [Table.find?_eq_some_iff]
    change floor.tiles[tile]? = some box ↔ ((tile : Int), box) ∈ floor.snapshot.map _
    rw [← Std.ExtTreeMap.mem_toList_iff_getElem?_eq_some, List.mem_map]
    constructor
    · intro listed
      exact ⟨(tile, box), listed, rfl⟩
    · rintro ⟨⟨other, content⟩, listed, same⟩
      cases same
      exact listed

/-- Written boxes are read back as an inbox. A written floor with writable addresses is read back as its
snapshot, and this lays out the same tiles again. -/
theorem written_results_are_read_back :
    (∀ boxes, inbox (Text.wordTexts (boxesText boxes)) = .ok boxes) ∧
    ∀ floor : Floor, (∀ entry ∈ floor.snapshot, entry.1 < Nat.pow 10 digitLimit) →
      ∃ table, tiles (splitTiles (floorText floor.snapshot)) = .ok table ∧
        table.entries = floor.snapshot ∧
        ∀ bound : Option Nat, (∀ entry ∈ floor.snapshot, covers bound entry.1 = true) →
          ∃ laid, Floor.lay (layout table) (bound.map Int.ofNat) = .ok laid ∧
            laid.bound = bound ∧ laid.tiles = floor.tiles := by
  constructor
  · intro boxes
    rw [wordTexts_boxesText, inbox_texts]
  · intro floor small
    refine ⟨snapshotTable floor, ?_, rfl, fun bound covered => lay_snapshotTable covered⟩
    rw [floorText, splitTiles_tilesText]
    exact @tiles_tokens_layout (snapshotTable floor) small

/-- A box came to an earlier tile of this floor after the one on the last tile. -/
def writtenFloor : Floor :=
  ((Floor.bare (some 12)).put ⟨12, rfl⟩ (.number ⟨-2147483648, by decide, by decide⟩)).put ⟨3, rfl⟩
    (.letter ⟨'W', by decide, by decide⟩)

theorem snapshot_writtenFloor :
    writtenFloor.snapshot = [(3, .letter ⟨'W', by decide, by decide⟩),
      (12, .number ⟨-2147483648, by decide, by decide⟩)] := by
  decide +kernel

theorem written_results_are_read_back_in_order :
    (∀ entry ∈ writtenFloor.snapshot, entry.1 < Nat.pow 10 digitLimit) ∧
      (∀ entry ∈ writtenFloor.snapshot, covers none entry.1 = true) ∧
      floorText writtenFloor.snapshot = "3=W 12=-2147483648" ∧
      ∃ table laid, tiles (splitTiles "3=W 12=-2147483648") = .ok table ∧
        table.keys = [3, 12] ∧ Floor.lay (layout table) none = .ok laid ∧
        laid.tiles = writtenFloor.tiles := by
  have small : ∀ entry ∈ writtenFloor.snapshot, entry.1 < Nat.pow 10 digitLimit := by
    rw [snapshot_writtenFloor]
    decide +kernel
  have covered : ∀ entry ∈ writtenFloor.snapshot, covers none entry.1 = true := fun _ _ => rfl
  have text : floorText writtenFloor.snapshot = "3=W 12=-2147483648" := by
    rw [snapshot_writtenFloor]
    decide +kernel
  obtain ⟨table, read, entries, again⟩ := written_results_are_read_back.2 writtenFloor small
  obtain ⟨laid, success, -, tiles⟩ := again none covered
  rw [text] at read
  refine ⟨small, covered, text, table, laid, read, ?_, success, tiles⟩
  rw [Table.keys, entries, snapshot_writtenFloor]
  rfl

end Preset

end OfficeMachine
