/-
This file tells how a session reports a file that it cannot load. The report has the code of the
expected failures exactly if the file is missing or has bytes that encode a text.
-/

import OfficeMachine.CommandLine.Performance
import OfficeMachine.Proofs.Storage.Loading

namespace OfficeMachine.CommandLine

/-- A refusal is reported in one line of the standard error and has the code one. -/
def Session.Refuses (session : Session) (message : String) : Prop :=
  session.report = ⟨1, "", "Error: " ++ message ++ "\n"⟩

/-- A session that breaks reports an error of its own and has the code two. -/
def Session.Breaks (session : Session) (message : String) : Prop :=
  session.report = ⟨2, "", "Internal interpreter error: " ++ message ++ "\n"⟩

/-- A session is called with a script if this is what it reads first. -/
structure ReadsScript (settings : Settings) (after : FilesAfter) (files : Storage.Files)
    (given : String) : Prop where
  named : settings.script = some given
  found : after [] = files

/-- A session comes to a floor file if its script is loaded and read, it has to run, its inbox is
read and the floor is named by one token. -/
inductive ReadsFloor (settings : Settings) (after : FilesAfter) : Storage.Files → String → Prop
  | intro {script source given : String} {program : Program} {inbox : List Box}
      (named : settings.script = some script)
      (loaded : Storage.loadScript (after []) script = .ok source)
      (read : (Script.Reader.fresh.read source).1.outcome = .ok program)
      (runs : settings.listing = false)
      (filled : Preset.inbox settings.inputs = .ok inbox)
      (memory : settings.memory = [given]) :
      ReadsFloor settings after
        (after (closingRecords (Script.Reader.fresh.read source).1.closing ++
          loadedRecords script program)) given

/-- A file is handled as a script if it is loaded or refused, and a session reports the refusal. -/
structure HandlesScript (files : Storage.Files) (given : String) : Prop where
  proper : Storage.IsProper (Storage.loadScript files given)
  reported : ∀ settings after error, ReadsScript settings after files given →
    Storage.loadScript files given = .error error → (settings.run after).Refuses error.message

/-- A file is handled as a floor if it is loaded or refused, and a session reports the refusal. -/
structure HandlesFloor (files : Storage.Files) (given : String) : Prop where
  proper : Storage.IsProper (Storage.loadFloor files [given])
  reported : ∀ settings after error, ReadsFloor settings after files given →
    Storage.loadFloor files [given] = .error error → (settings.run after).Refuses error.message

section Sessions

variable {settings : Settings} {after : FilesAfter} {files : Storage.Files} {given : String}
  {error : Storage.LoadError}

/-- Only an error that is expected is refused. -/
theorem refuses_loadFailure_iff : (loadFailure error).Refuses error.message ↔
    error.isExpected = true := by
  cases expected : error.isExpected with
  | true => simp [loadFailure, expected, Session.Refuses, failure, String.append_assoc]
  | false => simp [loadFailure, expected, Session.Refuses, unexpected]

theorem ReadsScript.report (reads : ReadsScript settings after files given)
    (failed : Storage.loadScript files given = .error error) :
    (settings.run after).report = (loadFailure error).report := by
  rw [← reads.found] at failed
  delta Settings.run
  simp only [reads.named, Option.getD_some, failed]

theorem ReadsFloor.report (reads : ReadsFloor settings after files given)
    (failed : Storage.loadFloor files [given] = .error error) :
    (settings.run after).report = (loadFailure error).report := by
  cases reads with
  | intro named loaded read runs filled memory =>
      delta Settings.run
      simp only [named, Option.getD_some, loaded, runScript, read, runProgram, runs,
        Bool.false_eq_true, if_false, filled, memory, List.isEmpty_cons, failed]

end Sessions

/-- Each session that reads an unreadable file breaks with the fault of its encoding. -/
theorem report_of_unreadable {files : Storage.Files} {given : String}
    (noNull : '\x00' ∉ given.toList)
    (unreadable : ¬ Storage.IsReadable (files (Storage.Path.ofText given)))
    (settings : Settings) (after : FilesAfter) :
    ∃ fault : Text.EncodingFault,
      (ReadsScript settings after files given → (settings.run after).Breaks fault.message) ∧
        (ReadsFloor settings after files given → (settings.run after).Breaks fault.message) := by
  obtain ⟨fault, read⟩ := Storage.exists_fault_of_not_isReadable noNull unreadable
  have script : Storage.loadScript files given = .error (.encoding fault) := by
    rw [Storage.loadScript, read]
    rfl
  have floor : Storage.loadFloor files [given] = .error (.encoding fault) := by
    rw [Storage.loadFloor, read]
    rfl
  exact ⟨fault, fun reads => reads.report script, fun reads => reads.report floor⟩

/-- A file without the null character in its path is handled, as a script and as a floor, exactly if
it is readable. A session that reads any other file breaks. -/
theorem file_is_handled_iff {given : String} (noNull : '\x00' ∉ given.toList)
    (files : Storage.Files) :
    (HandlesScript files given ↔ Storage.IsReadable (files (Storage.Path.ofText given))) ∧
      (HandlesFloor files given ↔ Storage.IsReadable (files (Storage.Path.ofText given))) ∧
      (¬ Storage.IsReadable (files (Storage.Path.ofText given)) →
        ∀ settings after, ReadsScript settings after files given ∨
          ReadsFloor settings after files given → ∃ message, (settings.run after).Breaks message) := by
  refine ⟨?_, ?_, ?_⟩
  · rw [← Storage.isProper_loadScript_iff noNull]
    refine ⟨HandlesScript.proper, fun proper => ⟨proper, ?_⟩⟩
    intro settings after error reads failed
    rw [Session.Refuses, reads.report failed]
    exact refuses_loadFailure_iff.mpr (proper error failed)
  · rw [← Storage.isProper_loadFloor_iff noNull]
    refine ⟨HandlesFloor.proper, fun proper => ⟨proper, ?_⟩⟩
    intro settings after error reads failed
    rw [Session.Refuses, reads.report failed]
    exact refuses_loadFailure_iff.mpr (proper error failed)
  · intro unreadable settings after reads
    obtain ⟨fault, asScript, asFloor⟩ := report_of_unreadable noNull unreadable settings after
    exact ⟨fault.message, reads.elim asScript asFloor⟩

/-- The floor in this file has a box for each of two tiles. -/
def floorFiles : Storage.Files := fun _ => .ok "0 Z\n24 -7\n".toUTF8.toList

theorem file_is_handled_iff_floor :
    '\x00' ∉ "floor.txt".toList ∧ HandlesScript floorFiles "floor.txt" ∧
      HandlesFloor floorFiles "floor.txt" := by
  have noNull : '\x00' ∉ "floor.txt".toList := by decide
  have readable : Storage.IsReadable (floorFiles (Storage.Path.ofText "floor.txt")) :=
    fun bytes same => ⟨"0 Z\n24 -7\n", (Except.ok.inj same).symm⟩
  obtain ⟨script, floor, -⟩ := file_is_handled_iff noNull floorFiles
  exact ⟨noNull, script.mpr readable, floor.mpr readable⟩

/-- No text has a byte with the value of the one in this file. -/
def strayDirectory : Storage.Directory where
  location := ⟨"/", ["office"]⟩
  entries := ⟨[(["stray.txt"], .file [0xFF])], by decide⟩

/-- A call for a script that is no text breaks with a code that is not that of a refusal. -/
theorem not_handlesScript_stray :
    '\x00' ∉ "stray.txt".toList ∧ ¬ HandlesScript strayDirectory.bytes "stray.txt" ∧
      ¬ HandlesFloor strayDirectory.bytes "stray.txt" ∧
      (perform ["stray.txt"] strayDirectory ⟨"20240101_120000", "2024-01-01 12:00:00"⟩).map
          (·.report) =
        .ok ⟨2, "", "Internal interpreter error: 'utf-8' codec can't decode byte 0xff in " ++
          "position 0: invalid start byte\n"⟩ := by
  let fault : Text.EncodingFault := ⟨0, 1, 0xFF, .invalidStart⟩
  have script : Storage.loadScript strayDirectory.bytes "stray.txt" = .error (.encoding fault) := by
    decide +kernel
  have floor : Storage.loadFloor strayDirectory.bytes ["stray.txt"] = .error (.encoding fault) := by
    decide +kernel
  refine ⟨by decide, fun handles => ?_, fun handles => ?_, by decide +kernel⟩
  · exact absurd (handles.proper _ script) (by decide)
  · exact absurd (handles.proper _ floor) (by decide)

end OfficeMachine.CommandLine
