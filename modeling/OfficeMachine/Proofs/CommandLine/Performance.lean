/-
This file compares calls of the command line with runs of scripts. A call that names a stored script
and gives its boxes, its tiles and its limits ends as the run of the script ends.
-/

import OfficeMachine.CommandLine.Performance
import OfficeMachine.Proofs.CommandLine.Settings
import OfficeMachine.Proofs.Preset
import OfficeMachine.Proofs.Script.Layout
import OfficeMachine.Proofs.Storage
import OfficeMachine.Proofs.Storage.Logbook

namespace OfficeMachine.CommandLine

/-- A call runs a script on an inbox and a floor with a step limit. -/
structure Call where
  script : String
  inbox : List Box
  initial : Table Int Box
  lastTile : Option Nat
  stepLimit : Nat

namespace Call

def inboxOrders (call : Call) : List Order :=
  if call.inbox.isEmpty then [] else [⟨.inputs, call.inbox.map Box.text⟩]

def floorOrders (call : Call) : List Order :=
  if call.initial.entries.isEmpty then []
  else [⟨.memory, Preset.tokens call.initial.entries⟩]

def limitOrders (call : Call) : List Order :=
  call.lastTile.toList.map (fun last => ⟨.lastTile, [toString last]⟩) ++
    [⟨.stepLimit, [toString call.stepLimit]⟩]

/-- The script comes first. An empty inbox, an empty floor and a missing bound are not mentioned. -/
def arguments (call : Call) : List String :=
  call.script ::
    (call.inboxOrders ++ call.floorOrders ++ call.limitOrders).flatMap Order.texts

/-- The setting of a call is that of a run of its script. -/
def setting (call : Call) (patience : Nat) : Setting where
  inbox := call.inbox
  initial := call.initial
  bound := call.lastTile.map Int.ofNat
  limit := some call.stepLimit
  patience := patience

/-- All numbers of a writable call can be written, and its tiles are not negative. -/
structure IsWritable (call : Call) : Prop where
  tiles : ∀ entry ∈ call.initial.entries, 0 ≤ entry.1 ∧ Numeral.isWritable entry.1 = true
  lastTile : ∀ last ∈ call.lastTile, Numeral.isWritable last = true
  stepLimit : Numeral.isWritable call.stepLimit = true

/-- These settings are what the arguments say. -/
def settings (call : Call) : Settings :=
  { Settings.initial with
    script := some call.script
    inputs := call.inbox.map Box.text
    memory := Preset.tokens call.initial.entries
    lastTile := call.lastTile.map .given
    stepLimit := .given call.stepLimit }

end Call

/-- The exit code and the standard output tell how a script ended. The expected failures have the
code one, and all others have the code two. -/
def exitOf : Except ScriptRunError RunOutcome → Nat × String
  | .ok (.returned output) => (0, Preset.boxesText output ++ "\n")
  | .ok (.faulted _) | .ok (.limitReached _) => (1, "")
  | .error (.unreadable (.rejected _)) | .error (.misplaced _) => (1, "")
  | .error (.unreadable (.overlong _)) => (2, "")
  | .ok .noTile | .ok .unwritableLimit | .ok .alreadyStopped | .ok .unfinished => (2, "")

def Report.exit (report : Report) : Nat × String := (report.code, report.output)

section Arguments

variable {call : Call}

theorem isValue_of_mem_tokens {entries : List (Int × Box)} {text : String}
    (member : text ∈ Preset.tokens entries) : IsValue text := by
  obtain ⟨entry, -, inside⟩ := List.mem_flatMap.mp member
  rcases List.mem_pair.mp inside with rfl | rfl
  · exact isValue_toString entry.1
  · exact isValue_text entry.2

theorem isComplete_several {switch : Switch} (arity : switch.arity = .several)
    {texts : List String} (values : ∀ text ∈ texts, IsValue text) (nonempty : texts ≠ []) :
    Order.IsComplete ⟨switch, texts⟩ where
  values := values
  arity := by
    rw [arity]
    exact nonempty

theorem isComplete_limit {switch : Switch} (arity : switch.arity = .one) (limit : Nat) :
    Order.IsComplete ⟨switch, [toString limit]⟩ where
  -- A natural number has the text of the integer.
  values := List.forall_mem_singleton.mpr (isValue_toString (limit : Int))
  arity := by
    rw [arity]
    exact ⟨toString limit, rfl⟩

/-- Each order of a call is complete. -/
theorem Call.isComplete (call : Call) :
    ∀ order ∈ call.inboxOrders ++ call.floorOrders ++ call.limitOrders, order.IsComplete := by
  intro order member
  rcases List.mem_append.mp member with fillings | limits
  · rcases List.mem_append.mp fillings with inbox | floor
    · unfold Call.inboxOrders at inbox
      split at inbox
      case isTrue => cases inbox
      case isFalse nonempty =>
        rw [List.mem_singleton.mp inbox]
        refine isComplete_several rfl ?_ (by simpa using nonempty)
        intro text given
        obtain ⟨box, -, rfl⟩ := List.mem_map.mp given
        exact isValue_text box
    · unfold Call.floorOrders at floor
      split at floor
      case isTrue => cases floor
      case isFalse nonempty =>
        rw [List.mem_singleton.mp floor]
        refine isComplete_several rfl (fun text given => isValue_of_mem_tokens given) ?_
        obtain ⟨entry, rest, shape⟩ := List.exists_cons_of_ne_nil (by simpa using nonempty)
        rw [shape]
        exact List.cons_ne_nil _ _
  · rcases List.mem_append.mp limits with bound | limit
    · obtain ⟨last, -, rfl⟩ := List.mem_map.mp bound
      exact isComplete_limit rfl last
    · rw [List.mem_singleton.mp limit]
      exact isComplete_limit rfl call.stepLimit

/-- An order for an empty inbox would change nothing. -/
theorem Call.obey_inboxOrders (call : Call) {settings : Settings} (unset : settings.inputs = []) :
    call.inboxOrders.foldlM Settings.obey settings =
      .ok { settings with inputs := call.inbox.map Box.text } := by
  unfold Call.inboxOrders
  split
  case isTrue empty =>
    rw [List.isEmpty_iff.mp empty, List.map_nil, ← unset]
    rfl
  case isFalse => rfl

theorem Call.obey_floorOrders (call : Call) {settings : Settings} (unset : settings.memory = []) :
    call.floorOrders.foldlM Settings.obey settings =
      .ok { settings with memory := Preset.tokens call.initial.entries } := by
  unfold Call.floorOrders
  split
  case isTrue empty =>
    rw [List.isEmpty_iff.mp empty, Preset.tokens, List.flatMap_nil, ← unset]
    rfl
  case isFalse => rfl

/-- A writable number is counted as itself. -/
theorem count_order {switch : Switch} {number : Nat} (writable : Numeral.isWritable number = true) :
    Order.count ⟨switch, [toString number]⟩ = .ok (.given number) := by
  have counted : Numeral.count (toString number) = .ok number := by
    apply Numeral.count_toString
    exact Numeral.isWritable_iff.mp writable
  rw [Order.count, Order.argument]
  simp only [counted]

theorem Call.obey_limitOrders (writable : call.IsWritable) {settings : Settings}
    (unset : settings.lastTile = none) :
    call.limitOrders.foldlM Settings.obey settings =
      .ok { settings with
        lastTile := call.lastTile.map .given
        stepLimit := .given call.stepLimit } := by
  have limit (settings : Settings) : settings.obey ⟨.stepLimit, [toString call.stepLimit]⟩ =
      .ok { settings with stepLimit := .given call.stepLimit } := by
    rw [Settings.obey, count_order writable.stepLimit]
    rfl
  cases bound : call.lastTile with
  | none =>
      have orders : call.limitOrders = [⟨.stepLimit, [toString call.stepLimit]⟩] := by
        rw [Call.limitOrders, bound]
        rfl
      rw [orders, List.foldlM_cons, limit, Option.map_none, ← unset]
      rfl
  | some last =>
      have orders : call.limitOrders =
          [⟨.lastTile, [toString last]⟩, ⟨.stepLimit, [toString call.stepLimit]⟩] := by
        rw [Call.limitOrders, bound]
        rfl
      have first : settings.obey ⟨.lastTile, [toString last]⟩ =
          .ok { settings with lastTile := some (.given last) } := by
        rw [Settings.obey, count_order (writable.lastTile last bound)]
        rfl
      rw [orders, List.foldlM_cons, bind_eq_ok_iff]
      refine ⟨_, first, ?_⟩
      rw [List.foldlM_cons, limit]
      rfl

/-- The orders of a writable call make its settings. -/
theorem Call.obey_orders (writable : call.IsWritable) :
    (call.inboxOrders ++ call.floorOrders ++ call.limitOrders).foldlM Settings.obey
      { Settings.initial with script := some call.script } = .ok call.settings := by
  rw [List.foldlM_append, List.foldlM_append, call.obey_inboxOrders rfl, bind_eq_ok_iff]
  exact ⟨_, call.obey_floorOrders rfl, Call.obey_limitOrders writable rfl⟩

/-- The arguments of a writable call are read as its settings. -/
theorem Call.read_arguments (writable : call.IsWritable)
    (noHyphen : call.script.toList.head? ≠ some '-') :
    Settings.read call.arguments = .ok call.settings :=
  read_orders (isValue_of_noHyphen noHyphen) call.isComplete (Call.obey_orders writable) rfl

end Arguments

section Session

/-- A call without a journal file looks at the directory as it is. -/
theorem exists_perform_of_noJournal {settings : Settings} (noLog : settings.log = false)
    (noFile : settings.logFile = none) (directory : Storage.Directory) (moment : Moment) :
    ∃ performance, settings.perform (.new directory moment) = .ok performance ∧
      performance.report = (settings.run fun _ => directory.bytes).report := by
  let journal : Journal := ⟨loggerName, none, Level.ofVerbosity settings.verbosity⟩
  have chosen : settings.journal moment = .ok journal := by
    rw [Settings.journal, noLog, noFile]
    rfl
  obtain ⟨opened, opens, stays⟩ :=
    (Storage.Logbook.new directory moment).exists_openJournal_of_noFile
      (show journal.file = none from rfl)
  have files : (fun _ => directory.bytes) = opened.filesAfter journal := by
    funext records
    rw [Storage.Logbook.filesAfter, stays]
    rfl
  let session := settings.run (opened.filesAfter journal)
  have performed : settings.perform (.new directory moment) =
      .ok ⟨session.report, opened.shown journal session.records,
        (opened.keep journal session.records).directory⟩ := by
    rw [Settings.perform, bind_eq_ok_iff]
    exact ⟨journal, chosen, bind_eq_ok_iff.mpr ⟨_, opens, rfl⟩⟩
  exact ⟨_, performed, by rw [files]⟩

theorem exit_conclude (run : RunReport) :
    (conclude run).report.exit = exitOf (.ok run.outcome) := by
  obtain ⟨outcome, machine⟩ := run
  cases outcome <;> rfl

/-- A session whose script is loaded goes on with it. -/
theorem run_of_loadScript {settings : Settings} {files : FilesAfter} {script source : String}
    (named : settings.script = some script)
    (loaded : Storage.loadScript (files []) script = .ok source) :
    settings.run files = runScript settings files script source := by
  delta Settings.run
  simp only [named, Option.getD_some, loaded]

variable {call : Call}

/-- The tiles of a call are loaded from its tokens, and they are its initial layout. -/
theorem Call.exists_tiles (writable : call.IsWritable) (files : Storage.Files) :
    ∃ table, (if call.settings.memory.isEmpty then .ok Table.empty
        else Storage.loadFloor files call.settings.memory) = .ok table ∧
      Preset.layout table = call.initial := by
  change ∃ table, (if (Preset.tokens call.initial.entries).isEmpty then .ok Table.empty
    else Storage.loadFloor files (Preset.tokens call.initial.entries)) = .ok table ∧ _
  obtain ⟨table, read, laid⟩ := Preset.tiles_tokens writable.tiles
  cases entries : call.initial.entries with
  | nil =>
      refine ⟨Table.empty, rfl, Table.ext ?_⟩
      rw [entries]
      rfl
  | cons entry rest =>
      -- There are at least two tokens, so they are not the name of a file.
      have loaded : Storage.loadFloor files (Preset.tokens (entry :: rest)) =
          (Preset.tiles (Preset.tokens (entry :: rest))).mapError .preset := rfl
      rw [entries] at read
      refine ⟨table, ?_, laid⟩
      rw [loaded, read]
      rfl

/-- A limited run does not depend on the patience. -/
theorem run_some (machine : Machine) (limit : Int) (patience other : Nat) :
    machine.run (some limit) patience = machine.run (some limit) other := by
  unfold Machine.run
  cases machine.stop <;> rfl

theorem Call.exit_runMachine (call : Call) (machine : Machine) (patience : Nat) :
    (runMachine machine call.settings.stepLimit).report.exit =
      exitOf (.ok (machine.run (some call.stepLimit) patience).outcome) := by
  change (conclude (machine.run (some call.stepLimit) 0)).report.exit = _
  rw [exit_conclude, run_some machine _ 0 patience]

theorem Call.exit_runOnFloor (call : Call) {tiles : Table Nat Box}
    (laid : Preset.layout tiles = call.initial) (program : Program) (patience : Nat) :
    (runOnFloor call.settings program call.inbox tiles).report.exit =
      exitOf ((program.run (call.setting patience)).mapError .misplaced) := by
  have built : program.machine (call.setting patience) =
      Machine.build program (Preset.layout tiles) call.inbox (call.lastTile.map Int.ofNat) := by
    rw [laid]
    rfl
  have last : call.settings.lastTile = call.lastTile.map .given := rfl
  unfold runOnFloor
  rw [last, Program.run, built]
  cases call.lastTile with
  | none =>
      simp only [Option.map_none]
      cases Machine.build program (Preset.layout tiles) call.inbox none with
      | error error => rfl
      | ok machine => exact call.exit_runMachine machine patience
  | some last =>
      simp only [Option.map_some]
      cases Machine.build program (Preset.layout tiles) call.inbox (some (last : Int)) with
      | error error => rfl
      | ok machine => exact call.exit_runMachine machine patience

theorem Call.exit_runProgram (writable : call.IsWritable) (files : Storage.Files)
    (program : Program) (patience : Nat) :
    (runProgram call.settings files program).report.exit =
      exitOf ((program.run (call.setting patience)).mapError .misplaced) := by
  obtain ⟨tiles, loaded, laid⟩ := Call.exists_tiles writable files
  have inbox : Preset.inbox call.settings.inputs = .ok call.inbox :=
    Preset.inbox_texts call.inbox
  have listing : call.settings.listing = false := rfl
  rw [← call.exit_runOnFloor laid program patience, runProgram, listing]
  simp only [inbox, loaded]
  rfl

/-- A script that is read ends as its program, and a script that is not read ends at once. -/
theorem Call.exit_runScript (writable : call.IsWritable) (files : Storage.Files) (source : String)
    (patience : Nat) :
    (runScript call.settings (fun _ => files) call.script source).report.exit =
      exitOf (Script.run source (call.setting patience)) := by
  rw [Script.run, Script.read, runScript]
  simp only
  cases (Script.Reader.fresh.read source).1.outcome with
  | error failure => cases failure <;> rfl
  | ok program => exact Call.exit_runProgram writable files program patience

end Session

/-- The command line agrees with the run of the script. The call performs without a fault of the
system, and its exit code and its output are those of the outcome. -/
theorem call_ends_as_run {call : Call} (writable : call.IsWritable)
    (plain : Storage.IsPlainName call.script) (noHyphen : call.script.toList.head? ≠ some '-')
    {directory : Storage.Directory} {source : String}
    (stores : directory.Stores call.script source) (moment : Moment) (patience : Nat) :
    ∃ performance, perform call.arguments directory moment = .ok performance ∧
      (performance.report.code, performance.report.output) =
        exitOf (Script.run source (call.setting patience)) := by
  obtain ⟨performance, performed, report⟩ :=
    @exists_perform_of_noJournal call.settings rfl rfl directory moment
  refine ⟨performance, ?_, ?_⟩
  · rw [perform, Call.read_arguments writable noHyphen]
    exact performed
  · change performance.report.exit = _
    have unified : Script.run (String.ofList (Text.unifyLineEnds source.toList)) =
        Script.run source := by
      funext setting
      rw [Script.run, Script.run, Script.read, Script.read, Script.read_unifyLineEnds]
    have run : call.settings.run (fun _ => directory.bytes) = _ :=
      run_of_loadScript rfl (plain.loadScript stores)
    rw [Report.exit, report, run, ← unified]
    exact Call.exit_runScript writable _ _ patience

/-- The inbox of this call holds a negative number, which is no switch. -/
def subtraction : Call where
  script := "subtraction.txt"
  inbox := [.number ⟨-2, by decide, by decide⟩]
  initial := ⟨[(3, .number ⟨6, by decide, by decide⟩), (0, .letter ⟨'B', by decide, by decide⟩)],
    by decide⟩
  lastTile := some 24
  stepLimit := 9

/-- Two lines of this script end with a carriage return and a line feed. -/
def subtractionSource : String := "INBOX\r\nSUB 3\r\nOUTBOX"

def subtractionDirectory : Storage.Directory where
  location := ⟨"/", ["office"]⟩
  entries := ⟨[(["subtraction.txt"], .file subtractionSource.toUTF8.toList)], by decide⟩

theorem call_ends_as_run_subtraction :
    ∃ performance, perform
        ["subtraction.txt", "-i", "-2", "-m", "3", "6", "0", "B", "-M", "24", "--max-steps", "9"]
        subtractionDirectory ⟨"20240101_120000", "2024-01-01 12:00:00"⟩ = .ok performance ∧
      (performance.report.code, performance.report.output) = (0, "-8\n") := by
  have arguments : subtraction.arguments = ["subtraction.txt", "-i", "-2", "-m", "3", "6", "0", "B",
      "-M", "24", "--max-steps", "9"] := by
    decide +kernel
  have outcome : exitOf (Script.run subtractionSource (subtraction.setting 0)) = (0, "-8\n") := by
    decide +kernel
  have writable : subtraction.IsWritable :=
    ⟨by decide +kernel, by decide +kernel, by decide +kernel⟩
  have plain : Storage.IsPlainName subtraction.script :=
    ⟨by decide, by decide, by decide, by decide, by decide, by decide⟩
  have stores : subtractionDirectory.Stores subtraction.script subtractionSource := ⟨rfl, rfl⟩
  rw [← arguments, ← outcome]
  exact call_ends_as_run writable plain (by decide) stores _ 0

end OfficeMachine.CommandLine
