/-
This file follows a listing through the command line. What a call lists may be stored and listed
again, and the second listing is the first one.
-/

import OfficeMachine.Proofs.CommandLine.Performance
import OfficeMachine.Proofs.Machine.Session
import OfficeMachine.Proofs.Program.Canonical
import OfficeMachine.Proofs.Storage.Loading

namespace OfficeMachine.CommandLine

/-- A call lists a text if it succeeds with this text on its standard output and nothing else. -/
def Lists (given : String) (directory : Storage.Directory) (text : String) : Prop :=
  ∀ moment, ∃ performance, perform [given, "--listing"] directory moment = .ok performance ∧
    performance.report = ⟨0, text, ""⟩

variable {given source : String} {directory : Storage.Directory} {program : Program}

/-- The arguments of a call that lists a script are read as the settings of such a call. -/
theorem read_listing_arguments (isValue : IsValue given) :
    Settings.read [given, "--listing"] =
      .ok { Settings.initial with script := some given, listing := true } := by
  have complete : ∀ order ∈ [(⟨.listing, []⟩ : Order)], order.IsComplete :=
    List.forall_mem_singleton.mpr ⟨List.forall_mem_nil _, rfl⟩
  exact read_orders isValue complete rfl rfl

/-- A session that has to list its program reports the listing and does not run. -/
theorem report_runScript_of_listing {settings : Settings} (listing : settings.listing = true)
    (files : FilesAfter) (script : String) (accepted : Script.read source = .ok program) :
    (runScript settings files script source).report = ⟨0, program.listing, ""⟩ := by
  have outcome : (Script.Reader.fresh.read source).1.outcome = .ok program := accepted
  simp only [runScript, outcome, runProgram, listing, if_true]
  rfl

/-- A call lists the program of the script that it loads. -/
theorem lists_of_loadScript (isValue : IsValue given)
    (loaded : Storage.loadScript directory.bytes given = .ok source)
    (accepted : Script.read source = .ok program) : Lists given directory program.listing := by
  intro moment
  let settings : Settings := { Settings.initial with script := some given, listing := true }
  obtain ⟨performance, performed, report⟩ :=
    @exists_perform_of_noJournal settings rfl rfl directory moment
  refine ⟨performance, ?_, ?_⟩
  · rw [perform, read_listing_arguments isValue]
    exact performed
  · have runs : settings.run (fun _ => directory.bytes) = _ := run_of_loadScript rfl loaded
    rw [report, runs]
    exact report_runScript_of_listing rfl _ given accepted

theorem read_unifyLineEnds (source : String) :
    Script.read (String.ofList (Text.unifyLineEnds source.toList)) = Script.read source := by
  rw [Script.read, Script.read, Script.read_unifyLineEnds]

/-- A text that was stored is loaded so that it is read in the same way. -/
theorem exists_loadScript_of_stored {text : String} (noNull : '\x00' ∉ given.toList)
    (stored : directory.bytes (Storage.Path.ofText given) = .ok text.toUTF8.toList) :
    ∃ source, Storage.loadScript directory.bytes given = .ok source ∧
      Script.read source = Script.read text := by
  refine ⟨String.ofList (Text.unifyLineEnds text.toList), ?_, read_unifyLineEnds text⟩
  rw [Storage.loadScript, Storage.readText, Storage.noNull_text noNull, stored]
  simp only [Text.decode_toUTF8]
  rfl

/-- A listing is a canonical form. It depends only on the actions of a program and on what its labels
mark, and a well-formed program is read from it that has the same listing. So the output of a call
that lists a script can be stored under any name, and the call that lists this one has the same
output. -/
theorem listing_is_canonical :
    (∀ first second : Program, first.Agrees second →
      (∀ name, first.labels.find? name = second.labels.find? name) →
      first.listing = second.listing) ∧
    (∀ program : Program, program.WellFormed →
      (∀ name ∈ program.labels.keys, Script.isName name.toList = true) →
      ∃ reread, Script.read program.listing = .ok reread ∧ reread.listing = program.listing) ∧
    ∀ given directory source program, IsValue given →
      Storage.loadScript directory.bytes given = .ok source → Script.read source = .ok program →
      Lists given directory program.listing ∧
        ∀ copy later, IsValue copy → '\x00' ∉ copy.toList →
          Storage.Directory.bytes later (Storage.Path.ofText copy) =
            .ok program.listing.toUTF8.toList →
          Lists copy later program.listing := by
  refine ⟨?_, ?_, ?_⟩
  · intro first second agree same
    exact listing_eq_of_agrees agree (Table.perm_of_find?_eq same)
  · intro program wellFormed named
    exact exists_read_listing_eq wellFormed named
  · intro given directory source program isValue loaded accepted
    refine ⟨lists_of_loadScript isValue loaded accepted, ?_⟩
    intro copy later isValueToo noNull stored
    obtain ⟨reread, readAgain, same⟩ := exists_read_listing_eq
      (Script.wellFormed_of_read accepted) (Script.isName_of_read accepted)
    obtain ⟨text, loadedAgain, sameRead⟩ := exists_loadScript_of_stored noNull stored
    rw [← same]
    exact lists_of_loadScript isValueToo loadedAgain (sameRead.trans readAgain)

/-- This program declares its labels in another order. -/
def reorderedLoop : Program :=
  { loopWithoutLabel with labels := ⟨[("far", 9), ("DEFINE", 3), ("L0", 3)], by decide⟩ }

/-- This directory has a script and the listing of its program. -/
def listingDirectory : Storage.Directory where
  location := ⟨"/", ["office"]⟩
  entries := ⟨[(["adder.txt"], .file Machine.adder.toUTF8.toList),
    (["listing.txt"], .file Machine.adderProgram.listing.toUTF8.toList)], by decide⟩

theorem listing_is_canonical_adder :
    reorderedLoop.listing = loopWithoutLabel.listing ∧
      (∃ reread, Script.read loopWithoutLabel.listing = .ok reread ∧
        reread.listing = loopWithoutLabel.listing) ∧
      Lists "adder.txt" listingDirectory Machine.adderProgram.listing ∧
      Lists "listing.txt" listingDirectory Machine.adderProgram.listing := by
  obtain ⟨depends, fixed, calls⟩ := listing_is_canonical
  have reordered : reorderedLoop.labels.entries.Perm loopWithoutLabel.labels.entries := by decide
  have plain : Storage.IsPlainName "adder.txt" :=
    ⟨by decide, by decide, by decide, by decide, by decide, by decide⟩
  have plainToo : Storage.IsPlainName "listing.txt" :=
    ⟨by decide, by decide, by decide, by decide, by decide, by decide⟩
  have accepted : Script.read (String.ofList (Text.unifyLineEnds Machine.adder.toList)) =
      .ok Machine.adderProgram :=
    (read_unifyLineEnds Machine.adder).trans Machine.read_adder
  obtain ⟨lists, again⟩ := calls "adder.txt" listingDirectory _ _
    (isValue_of_noHyphen (by decide)) (plain.loadScript ⟨rfl, rfl⟩) accepted
  refine ⟨depends _ _ rfl (Table.find?_eq_of_perm reordered), ?_, lists, ?_⟩
  · exact fixed loopWithoutLabel (by decide +kernel) (by decide +kernel)
  · exact again "listing.txt" listingDirectory (isValue_of_noHyphen (by decide)) plainToo.noNull
      (plainToo.bytes rfl rfl)

end OfficeMachine.CommandLine
