/-
This file carries out a call. A session loads the script, lists or runs it, and tells the exit
code, the two texts that it prints and the records that it makes.
-/

import OfficeMachine.CommandLine.Settings
import OfficeMachine.Journal
import OfficeMachine.Program.Listing
import OfficeMachine.Run
import OfficeMachine.Storage.Loading

namespace OfficeMachine.CommandLine

def versionText : String := "hrm 0.2.0\n"

def loggerName : String := "hrm_interpreter"

/-- A report goes to the standard output and the standard error. -/
structure Report where
  code : Nat
  output : String
  errors : String
  deriving DecidableEq

/-- A session ends with its report and the records that it made on the way. -/
structure Session where
  report : Report
  records : List Record
  deriving DecidableEq

def Session.note (record : Record) (session : Session) : Session :=
  { session with records := record :: session.records }

/-- The session itself makes its records on these lines of its main function. -/
def ownRecord (line : Nat) (level : Level) (message : String) : Record :=
  ⟨level, loggerName, ⟨"main", line⟩, message⟩

def readerRecord (origin : Origin) (message : String) : Record :=
  ⟨Level.debug, loggerName ++ ".parser", origin, message⟩

def machineRecord (origin : Origin) (level : Level) (message : String) : Record :=
  ⟨level, loggerName ++ ".interpreter", origin, message⟩

/-- A failure is told in one line of the standard error. -/
def failure (title message : String) : Session :=
  ⟨⟨1, "", title ++ ": " ++ message ++ "\n"⟩, []⟩

/-- An unexpected failure has an exit code of its own. The stack that its record adds to a file is left
out. -/
def unexpected (message : String) : Session where
  report := ⟨2, "", "Internal interpreter error: " ++ message ++ "\n"⟩
  records := [ownRecord 131 Level.debug "Traceback"]

def success (output : String) : Session := ⟨⟨0, output, ""⟩, []⟩

def loadFailure (error : Storage.LoadError) : Session :=
  if error.isExpected then failure "Error" error.message else unexpected error.message

def scriptFailure : Script.Failure → Session
  | .rejected error => failure "Parse error" error.message
  | .overlong error => unexpected error.message

/-- Labels are shown with the indices that they mark. -/
def labelsText (labels : Table String Int) : String :=
  let entries := labels.entries.map fun entry => Text.quoted entry.1 ++ s!": {entry.2}"
  "\x7b" ++ ", ".intercalate entries ++ "\x7d"

def optionText (number : Option Nat) : String :=
  match number with
  | some number => toString number
  | none => "None"

def startRecord (machine : Machine) : Record :=
  machineRecord ⟨"run", 129⟩ Level.debug (s!"Run start: {machine.program.size} instructions, " ++
    s!"{machine.inbox.length} inputs, max_address={optionText machine.floor.bound}")

def stopText (machine : Machine) : String :=
  match machine.stop with
  | some stop => stop.text
  | none => ""

def returnRecords (machine : Machine) (output : List Box) : List Record :=
  [machineRecord ⟨"run", 140⟩ Level.debug (s!"Run stop: {stopText machine} after {machine.steps} steps, " ++
      s!"{output.length} outputs"),
    ownRecord 109 Level.info s!"Finished ({stopText machine}) after {machine.steps} steps"]

/-- A fault tells what had reached the outbox, if anything had. -/
def faultErrors (fault : Fault) : String :=
  "Runtime fault: " ++ fault.message ++ "\n" ++
    if fault.output.isEmpty then ""
    else "Output before fault: " ++ Preset.boxesText fault.output ++ "\n"

def faultRecords (machine : Machine) (fault : Fault) : List Record :=
  let floor := Preset.floorText machine.floor.snapshot
  [machineRecord ⟨"_fault", 171⟩ Level.info ("Fault: " ++ fault.message),
    ownRecord 124 Level.info ("Floor at fault: " ++ if floor = "" then "(empty)" else floor)]

def limitRecord (reached : LimitReached) : Record :=
  machineRecord ⟨"run", 134⟩ Level.warning
    s!"Step limit {reached.limit} hit at instruction {reached.position}"

/-- The outcome of the run decides the report. -/
def conclude (run : RunReport) : Session :=
  match run.outcome with
  | .returned output =>
      { success (Preset.boxesText output ++ "\n") with
        records := returnRecords run.machine output }
  | .faulted fault => ⟨⟨1, "", faultErrors fault⟩, faultRecords run.machine fault⟩
  | .limitReached reached =>
      { failure "Aborted" reached.message with records := [limitRecord reached] }
  | .unwritableLimit => unexpected Numeral.unwritableMessage
  | .noTile => unexpected noTileMessage
  | .alreadyStopped => unexpected alreadyStoppedMessage
  | .unfinished => unexpected ""

def blankBoundMessage : String := "'<' not supported between instances of 'list' and 'int'"

def blankLimitMessage : String := "'>=' not supported between instances of 'int' and 'list'"

/-- A blank limit matters only if there is a step to take. -/
def runToLimit (machine : Machine) (limit : Argument Nat) : Session :=
  match limit, machine.current? with
  | .given limit, _ => conclude (machine.run (some limit) 0)
  | .blank, some _ => unexpected blankLimitMessage
  | .blank, none => conclude (machine.run none 0)

def runMachine (machine : Machine) (limit : Argument Nat) : Session :=
  (runToLimit machine limit).note (startRecord machine)

/-- The machine is built for the bound of the call, if it has one and that is not blank. -/
def runOnFloor (settings : Settings) (program : Program) (inbox : List Box)
    (tiles : Table Nat Box) : Session :=
  let runWithin (bound : Option Int) : Session :=
    match Machine.build program (Preset.layout tiles) inbox bound with
    | .error error => failure "Configuration error" error.message
    | .ok machine => runMachine machine settings.stepLimit
  match settings.lastTile with
  | none => runWithin none
  | some (.given last) => runWithin (some last)
  | some .blank => unexpected blankBoundMessage

/-- The reader notes the closing line when it comes to it. -/
def closingRecords (closing : Option Nat) : List Record :=
  closing.toList.map fun line =>
    readerRecord ⟨"_retained_lines", 142⟩ s!"DEFINE at line {line}, ignoring the rest"

def loadedRecords (script : String) (program : Program) : List Record :=
  [readerRecord ⟨"parse", 125⟩
      (s!"Parsed {program.size} instructions, labels=" ++ labelsText program.labels),
    ownRecord 97 Level.info s!"Loaded {script}: {program.size} instructions"]

/-- The files may change with the records that the session has made. -/
abbrev FilesAfter := List Record → Storage.Files

/-- A program is listed, or it runs on the inputs and the floor of the call. -/
def runProgram (settings : Settings) (files : Storage.Files) (program : Program) : Session :=
  if settings.listing then success program.listing
  else
    match Preset.inbox settings.inputs with
    | .error error => loadFailure (.preset error)
    | .ok inbox =>
        let floor := if settings.memory.isEmpty then .ok Table.empty
          else Storage.loadFloor files settings.memory
        match floor with
        | .error error => loadFailure error
        | .ok tiles => runOnFloor settings program inbox tiles

/-- The script is read before anything else is looked at. -/
def runScript (settings : Settings) (files : FilesAfter) (script source : String) : Session :=
  let reading := (Script.Reader.fresh.read source).1
  let before := closingRecords reading.closing
  match reading.outcome with
  | .error error =>
      let session := scriptFailure error
      { session with records := before ++ session.records }
  | .ok program =>
      let records := before ++ loadedRecords script program
      let session := runProgram settings (files records) program
      { session with records := records ++ session.records }

def Settings.run (settings : Settings) (files : FilesAfter) : Session :=
  let script := settings.script.getD ""
  match Storage.loadScript (files []) script with
  | .error error => loadFailure error
  | .ok source => runScript settings files script source

/-- A call that ends early prints the version or what is wrong with its usage. -/
def EarlyEnd.report : EarlyEnd → Report
  | .usage message => ⟨2, "", "hrm: error: " ++ message ++ "\n"⟩
  | .version => ⟨0, versionText, ""⟩
  | .help => ⟨0, "usage: hrm [options] script\n", ""⟩

end OfficeMachine.CommandLine
