/-
This file tells which files can be loaded. A load fails with an error that is not expected exactly
if the file has bytes that encode no text.
-/

import OfficeMachine.Proofs.Outcome
import OfficeMachine.Proofs.Text.Decoding
import OfficeMachine.Proofs.Text.Words
import OfficeMachine.Storage.Loading

namespace OfficeMachine.Storage

section Paths

variable {given : String} {character : Char}

theorem mem_of_mem_intercalate {separator : String} {names : List String}
    (inside : character ∈ (separator.intercalate names).toList) :
    character ∈ separator.toList ∨ ∃ name ∈ names, character ∈ name.toList := by
  induction names with
  | nil => simp at inside
  | cons name rest inductionHypothesis =>
      cases rest with
      | nil => exact .inr ⟨name, by simp, by simpa using inside⟩
      | cons next others =>
          rw [String.intercalate_cons_cons, String.toList_append, String.toList_append,
            List.mem_append, List.mem_append] at inside
          rcases inside with (first | between) | behind
          · exact .inr ⟨name, by simp, first⟩
          · exact .inl between
          · rcases inductionHypothesis behind with between | ⟨other, member, here⟩
            · exact .inl between
            · exact .inr ⟨other, List.mem_cons_of_mem name member, here⟩

theorem mem_of_mem_rootOf {text : List Char}
    (inside : character ∈ (Path.rootOf text).toList) : character = '/' := by
  unfold Path.rootOf at inside
  split at inside
  case h_4 => simp at inside
  all_goals simpa using inside

/-- The names of a path only have characters that were given. -/
theorem mem_of_mem_namesOf {text : List Char} {name : String} (member : name ∈ Path.namesOf text)
    (inside : character ∈ name.toList) (noSlash : character ≠ '/') : character ∈ text := by
  obtain ⟨piece, isPiece, rfl⟩ := List.mem_map.mp (List.mem_filter.mp member).1
  rw [String.toList_ofList] at inside
  exact (Text.exists_mem_pieces_iff _ (by simpa using noSlash) text).mp ⟨piece, isPiece, inside⟩

/-- A path of a token without the null character is written without it. -/
theorem noNull_text (noNull : '\x00' ∉ given.toList) :
    (Path.ofText given).text.toList.contains '\x00' = false := by
  rw [Bool.eq_false_iff, Ne, List.contains_iff_mem]
  intro inside
  unfold Path.text at inside
  split at inside
  case isTrue => simp at inside
  case isFalse =>
    rw [String.toList_append, List.mem_append] at inside
    rcases inside with inRoot | inNames
    · cases mem_of_mem_rootOf inRoot
    · rcases mem_of_mem_intercalate inNames with between | ⟨name, member, here⟩
      · simp at between
      · exact noNull (mem_of_mem_namesOf member here (by decide))

end Paths

/-- What a path leads to is readable unless it is a file whose bytes encode no text. -/
def IsReadable (content : Except Fault (List UInt8)) : Prop :=
  ∀ bytes, content = .ok bytes → ∃ text : String, bytes = text.toUTF8.toList

/-- A load is proper if it only fails with errors that are expected. -/
def IsProper {Content : Type} (load : Except LoadError Content) : Prop :=
  FailsOnlyWith (fun error => error.isExpected = true) load

section Loads

variable {files : Files} {given : String}

/-- The errors of a text that is read stand for the state of its file. -/
inductive Reads (files : Files) (path : Path) : Except ReadError String → Prop where
  | text {text : String} (content : files path = .ok text.toUTF8.toList) :
      Reads files path (.ok (String.ofList (Text.unifyLineEnds text.toList)))
  | fault {fault : Fault} (content : files path = .error fault) :
      Reads files path (.error (.fault fault))
  | encoding {bytes : List UInt8} {fault : Text.EncodingFault} (content : files path = .ok bytes)
      (noText : ∀ text : String, bytes ≠ text.toUTF8.toList) :
      Reads files path (.error (.encoding fault))

theorem reads_readText (files : Files) (noNull : '\x00' ∉ given.toList) :
    Reads files (Path.ofText given) (readText files (Path.ofText given)) := by
  unfold readText
  rw [noNull_text noNull]
  simp only [Bool.false_eq_true, if_false]
  cases content : files (Path.ofText given) with
  | error fault => exact .fault content
  | ok bytes =>
      simp only
      cases decoded : Text.decode bytes with
      | error fault => exact .encoding content (Text.exists_fault_iff.mp ⟨fault, decoded⟩)
      | ok text =>
          rw [Text.decode_eq_ok_iff.mp decoded] at content
          simpa using Reads.text content

/-- A file that is not readable is reported with the fault of its encoding. -/
theorem exists_fault_of_not_isReadable (noNull : '\x00' ∉ given.toList)
    (unreadable : ¬ IsReadable (files (Path.ofText given))) :
    ∃ fault, readText files (Path.ofText given) = .error (.encoding fault) := by
  have reads := reads_readText files noNull
  generalize readText files (Path.ofText given) = result at reads
  cases reads with
  | text content =>
      refine absurd ?_ unreadable
      intro bytes same
      exact ⟨_, Except.ok.inj (same.symm.trans content)⟩
  | fault content =>
      refine absurd ?_ unreadable
      intro bytes same
      cases same.symm.trans content
  | encoding => exact ⟨_, rfl⟩

/-- A load that reads a text first and is proper from then on is proper exactly if the text can be
read. -/
theorem isProper_iff {Content : Type} {ofFault : Fault → LoadError}
    (expected : ∀ fault, (ofFault fault).isExpected = true)
    {finish : String → Except LoadError Content} (proper : ∀ text, IsProper (finish text))
    (noNull : '\x00' ∉ given.toList) :
    IsProper ((readText files (Path.ofText given)).mapError (·.asLoadError ofFault) >>= finish) ↔
      IsReadable (files (Path.ofText given)) := by
  constructor
  · intro isProper
    by_contra unreadable
    obtain ⟨fault, read⟩ := exists_fault_of_not_isReadable noNull unreadable
    rw [read] at isProper
    cases isProper (.encoding fault) rfl
  · intro readable
    have reads := reads_readText files noNull
    generalize readText files (Path.ofText given) = result at reads
    cases reads with
    | text => exact proper _
    | fault =>
        rintro error ⟨⟩
        exact expected _
    | encoding content noText =>
        obtain ⟨text, same⟩ := readable _ content
        exact absurd same (noText text)

theorem isProper_mapError_preset {Content : Type} (load : Except Preset.Error Content) :
    IsProper (load.mapError .preset) := by
  rintro error failed
  cases load with
  | error reported =>
      cases failed
      rfl
  | ok content => cases failed

/-- A script is loaded properly exactly if its file is readable. -/
theorem isProper_loadScript_iff (noNull : '\x00' ∉ given.toList) :
    IsProper (loadScript files given) ↔ IsReadable (files (Path.ofText given)) := by
  have loaded : loadScript files given =
      (readText files (Path.ofText given)).mapError (·.asLoadError (.script given)) >>= .ok :=
    (bind_pure _).symm
  rw [loaded]
  exact isProper_iff (fun _ => rfl) (fun text => failsOnlyWith_ok text) noNull

/-- A floor is loaded properly from a file exactly if the file is readable. -/
theorem isProper_loadFloor_iff (noNull : '\x00' ∉ given.toList) :
    IsProper (loadFloor files [given]) ↔ IsReadable (files (Path.ofText given)) :=
  isProper_iff (fun _ => rfl) (fun _ => isProper_mapError_preset _) noNull

end Loads

end OfficeMachine.Storage
