/-
This file loads a script that was stored. A plain name leads to a file of the directory, and a text
that was encoded into the file is read with its line ends unified.
-/

import OfficeMachine.Proofs.Text.Encoding
import OfficeMachine.Proofs.Text.Words
import OfficeMachine.Storage.Loading

namespace OfficeMachine.Storage

/-- A plain name is a whole path. It has neither a slash nor a null character, is not one of the
dots, and the system takes it as a name. -/
structure IsPlainName (name : String) : Prop where
  nonempty : name ≠ ""
  noDot : name ≠ "."
  noDots : name ≠ ".."
  noSlash : '/' ∉ name.toList
  noNull : '\x00' ∉ name.toList
  short : name.utf8ByteSize ≤ 255

/-- A directory stores a text under a name if the name leads to a file with the encoded text. -/
structure Directory.Stores (directory : Directory) (name text : String) : Prop where
  folder : directory.entry? [] = some .folder
  file : directory.entry? [name] = some (.file text.toUTF8.toList)

variable {directory : Directory} {name : String}

/-- A plain name is a relative path of one name. -/
theorem IsPlainName.ofText (plain : IsPlainName name) : Path.ofText name = ⟨"", [name]⟩ := by
  have root : Path.rootOf name.toList = "" := by
    unfold Path.rootOf
    split
    case h_4 => rfl
    all_goals
      rename_i shape
      exact absurd (by rw [shape]; exact List.mem_cons_self) plain.noSlash
  have parts : Text.pieces (· = '/') name.toList = [name.toList] := by
    apply Text.pieces_of_clean
    intro character member
    rw [decide_eq_false_iff_not]
    rintro rfl
    exact plain.noSlash member
  simp [Path.ofText, root, Path.namesOf, parts, plain.nonempty, plain.noDot]

theorem text_single (name : String) : (⟨"", [name]⟩ : Path).text = name := by
  simp [Path.text]

/-- Inside the directory the entries are known by their names. -/
theorem entryAt?_inner (directory : Directory) (names : List String) :
    directory.entryAt? (directory.location.names ++ names) = directory.entry? names := by
  simp [Directory.entryAt?, Directory.inner?]

/-- A plain name leads to the file that is listed under it. -/
theorem IsPlainName.bytes (plain : IsPlainName name) {content : List UInt8}
    (folder : directory.entry? [] = some .folder)
    (file : directory.entry? [name] = some (.file content)) :
    directory.bytes (Path.ofText name) = .ok content := by
  have here := entryAt?_inner directory []
  have there := entryAt?_inner directory [name]
  rw [List.append_nil, folder] at here
  rw [file] at there
  have short := plain.short
  have entered : directory.enter directory.location.names name =
      .ok (directory.location.names ++ [name]) := by
    unfold Directory.enter Directory.child
    simp only [here, there]
    rw [if_neg plain.noDots, if_neg (by omega)]
  have found : directory.find ⟨"", [name]⟩ = .ok (directory.location.names ++ [name]) := by
    rw [Directory.find, text_single, if_neg (by omega)]
    simp only [List.foldlM_cons, List.foldlM_nil, Directory.origin, if_true, entered]
    rfl
  rw [plain.ofText]
  simp only [Directory.bytes, found, bind, Except.bind, there]

/-- A stored script is loaded with its line ends unified. -/
theorem IsPlainName.loadScript (plain : IsPlainName name) {text : String}
    (stores : directory.Stores name text) :
    loadScript directory.bytes name = .ok (String.ofList (Text.unifyLineEnds text.toList)) := by
  have noNull : name.toList.contains '\x00' = false := by
    simpa using plain.noNull
  have bytes := plain.bytes stores.folder stores.file
  rw [plain.ofText] at bytes
  rw [Storage.loadScript, plain.ofText, readText, text_single, noNull]
  simp only [bytes, Text.decode_toUTF8]
  rfl

end OfficeMachine.Storage
