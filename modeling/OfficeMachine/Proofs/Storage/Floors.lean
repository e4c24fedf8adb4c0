/-
This file tells how a floor is loaded. Its tokens are read alike from the call and from a file that
spaces them out.
-/

import OfficeMachine.Proofs.Preset.Tokens
import OfficeMachine.Proofs.Storage.Loading
import OfficeMachine.Proofs.Text.Lines

namespace OfficeMachine.Storage

section Floors

variable {files : Files} {given text : String} {tokens : List String}

/-- A file that holds a text is read as this text with unified line ends. -/
theorem readText_of_content (noNull : '\x00' ∉ given.toList)
    (content : files (Path.ofText given) = .ok text.toUTF8.toList) :
    readText files (Path.ofText given) =
      .ok (String.ofList (Text.unifyLineEnds text.toList)) := by
  have decoded : Text.decode text.toUTF8.toList = .ok text.toList :=
    Text.decode_eq_ok_iff.mpr (by rw [String.ofList_toList])
  unfold readText
  rw [noNull_text noNull]
  simp only [content, decoded, Bool.false_eq_true, if_false]

/-- The words of a text that spaces out tokens are these tokens, also with unified line ends. -/
theorem wordTexts_of_spacedOut
    (spacedOut : Text.SpacedOut (tokens.map String.toList) text.toList) :
    Text.wordTexts (String.ofList (Text.unifyLineEnds text.toList)) = tokens := by
  rw [Text.wordTexts, String.toList_ofList, Text.words_unifyLineEnds, spacedOut.words_eq]
  simp

/-- Tokens that do not name a file are read as they are. -/
theorem loadFloor_of_length_ne_one (several : tokens.length ≠ 1) :
    loadFloor files tokens = (Preset.tiles tokens).mapError .preset := by
  unfold loadFloor
  split
  · exact absurd rfl several
  · rfl

theorem loadFloor_of_content (noNull : '\x00' ∉ given.toList)
    (content : files (Path.ofText given) = .ok text.toUTF8.toList)
    (spacedOut : Text.SpacedOut (tokens.map String.toList) text.toList) :
    loadFloor files [given] = (Preset.tiles tokens).mapError .preset := by
  have words := wordTexts_of_spacedOut spacedOut
  simp only [loadFloor, readText_of_content noNull content, Except.mapError, bind, Except.bind, words]

end Floors

/-- The tokens of a floor are read exactly if they are even in number with an address at each even
place and a box at each odd one. The table collects their pairs, and a file that spaces out the tokens
is loaded like the tokens themselves. -/
theorem floor_is_read_exactly :
    (∀ tokens : List String, (∃ table, Preset.tiles tokens = .ok table) ↔
      tokens.length % 2 = 0 ∧
        (∀ (index : Nat) (token : String), tokens[2 * index]? = some token →
          Preset.IsAddress (Text.trim token.toList)) ∧
        ∀ (index : Nat) (token : String), tokens[2 * index + 1]? = some token →
          ∃ box, Box.ofToken token = .ok box) ∧
    (∀ tokens table, Preset.tiles tokens = .ok table ↔
      ∃ pairs, Preset.PairsUp tokens pairs ∧ table.Collects pairs) ∧
    (∀ tokens error, Preset.tiles tokens = .error error ↔ Preset.AreRefused tokens error) ∧
    ∀ (tokens : List String) (given text : String) (files others : Files),
      '\x00' ∉ given.toList → tokens.length ≠ 1 →
        files (Path.ofText given) = .ok text.toUTF8.toList →
        Text.SpacedOut (tokens.map String.toList) text.toList →
        loadFloor files [given] = loadFloor others tokens := by
  refine ⟨?_, fun _ _ => Preset.tiles_eq_ok_iff, fun _ _ => Preset.tiles_eq_error_iff, ?_⟩
  · intro tokens
    simp only [Box.ofToken_eq_ok_iff]
    rw [← Preset.exists_pairsUp_iff]
    constructor
    · rintro ⟨table, read⟩
      obtain ⟨pairs, pairsUp, -⟩ := Preset.tiles_eq_ok_iff.mp read
      exact ⟨pairs, pairsUp⟩
    · rintro ⟨pairs, pairsUp⟩
      exact ⟨_, Preset.tiles_eq_ok_iff.mpr ⟨pairs, pairsUp, Table.collects_ofList pairs⟩⟩
  · intro tokens given text files others noNull several content spacedOut
    rw [loadFloor_of_content noNull content spacedOut, loadFloor_of_length_ne_one several]

/-- The tokens of a floor whose last tile is the first one with a new box. -/
def replacedTokens : List String := ["03", "A", "0", "+5", "3", "-7"]

/-- The same tokens in a file with tabs and line ends. -/
def replacedText : String := "03\tA\r\n\r\n0 +5\n3\u2003-7"

/-- All files hold the text. -/
def replacedFiles : Files := fun _ => .ok replacedText.toUTF8.toList

/-- There are no files. -/
def noFiles : Files := fun _ => .error .missing

/-- The second pair for the tile with the number three replaces the first one, from the call and from a
file with tabs and line ends. -/
theorem floor_is_read_exactly_replaced :
    '\x00' ∉ "floor.txt".toList ∧ replacedTokens.length ≠ 1 ∧
      replacedFiles (Path.ofText "floor.txt") = .ok replacedText.toUTF8.toList ∧
      Text.SpacedOut (replacedTokens.map String.toList) replacedText.toList ∧
      replacedTokens[2 * 0]? = some "03" ∧ Preset.IsAddress (Text.trim "03".toList) ∧
      loadFloor replacedFiles ["floor.txt"] = loadFloor noFiles replacedTokens ∧
      (loadFloor noFiles replacedTokens).map Table.entries =
        .ok [(3, .number ⟨-7, by decide, by decide⟩), (0, .number ⟨5, by decide, by decide⟩)] := by
  obtain ⟨readable, -, -, alike⟩ := floor_is_read_exactly
  have noNull : '\x00' ∉ "floor.txt".toList := by decide
  have several : replacedTokens.length ≠ 1 := by decide
  have spacedOut : Text.SpacedOut (replacedTokens.map String.toList) replacedText.toList :=
    Text.words_eq_iff_spacedOut.mp (by decide +kernel)
  have accepted : ∃ table, Preset.tiles replacedTokens = .ok table :=
    ⟨Table.ofList [(3, .number ⟨-7, by decide, by decide⟩), (0, .number ⟨5, by decide, by decide⟩)],
      by decide +kernel⟩
  have addresses := ((readable replacedTokens).mp accepted).2.1
  exact ⟨noNull, several, rfl, spacedOut, rfl, addresses 0 "03" rfl,
    alike replacedTokens "floor.txt" replacedText replacedFiles noFiles noNull several rfl spacedOut,
    by decide +kernel⟩

end OfficeMachine.Storage
