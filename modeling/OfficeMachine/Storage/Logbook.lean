/-
This file keeps the journals of a directory. A logbook opens the file of each journal and adds the
lines of its records to what the file already has.
-/

import OfficeMachine.Journal
import OfficeMachine.Storage.Directory

namespace OfficeMachine.Storage

/-- A journal file cannot be opened if its path is blank or holds a null character, or for a fault
of the system. -/
inductive OpenError where
  | blankPath
  | nullCharacter
  | fault (reported : Fault) (path : Path)
  deriving DecidableEq

def OpenError.message : OpenError → String
  | .blankPath => "expected str, bytes or os.PathLike object, not list"
  | .nullCharacter => "embedded null byte"
  | .fault reported path => reported.message path

/-- An outlet is attached with its level. A file is known by its names if it lies in the
directory. -/
structure Attachment where
  outlet : Journal.Outlet
  level : Level
  names : Option (List String)
  deriving DecidableEq

namespace Attachment

/-- An outlet takes records from its level on. -/
def takes (attachment : Attachment) (record : Record) : Bool := attachment.level ≤ record.level

/-- An outlet with a file in the directory writes the line of a record that it takes to the end of
this file, if the record has a line. -/
def write (attachment : Attachment) (moment : Moment) (record : Record)
    (directory : Directory) : Directory :=
  match attachment.takes record, attachment.outlet, attachment.names with
  | true, .file, some names => directory.extend names (record.bytes moment)
  | _, _, _ => directory

end Attachment

/-- All lines of a logbook are written at one moment, and outlets stay attached until they are
detached. -/
structure Logbook where
  directory : Directory
  moment : Moment
  loggers : Loggers
  attached : List Attachment

namespace Logbook

def new (directory : Directory) (moment : Moment) : Logbook :=
  ⟨directory, moment, Loggers.none, []⟩

def refuseNull (path : Path) : Except OpenError Unit :=
  if path.text.toList.contains '\x00' then .error .nullCharacter else .ok ()

def faultOn {Result : Type} (result : Except (Fault × Path) Result) : Except OpenError Result :=
  result.mapError fun (reported, path) => .fault reported path

/-- The folders around the file are made before the file itself is looked for from the root. It is
then known by the names that lead to it if it lies in the directory. -/
def openFile (logbook : Logbook) (path : Path) :
    Except OpenError (Logbook × Option (List String)) := do
  refuseNull path.parent
  let prepared ← faultOn (logbook.directory.makeFolder path.parent)
  refuseNull path
  let whole := logbook.directory.location.absolute path
  let directory ← faultOn (prepared.openFile whole)
  let names := match directory.find whole with
    | .ok place => directory.inner? place
    | .error _ => none
  return ({ logbook with directory := directory }, names)

/-- One attached outlet after another writes a record. -/
def written (logbook : Logbook) (record : Record) : Directory :=
  logbook.attached.foldl
    (fun directory attachment => attachment.write logbook.moment record directory)
    logbook.directory

/-- A record is met by the loggers, and it is written if they deliver it. -/
def emit (logbook : Logbook) (upper : Phrase) (record : Record) : Logbook :=
  let loggers := logbook.loggers.meet upper record
  { logbook with
    loggers := loggers
    directory :=
      if loggers.delivers upper record then logbook.written record else logbook.directory }

def detachAll (logbook : Logbook) : Logbook := { logbook with attached := [] }

def attach (logbook : Logbook) (attachment : Attachment) : Logbook :=
  { logbook with attached := logbook.attached ++ [attachment] }

/-- A journal with a file has an outlet for it that takes all records from the debug level on. -/
def attachFile (logbook : Logbook) (file : Option Path) : Except OpenError Logbook :=
  match file with
  | some path => do
      let (opened, names) ← logbook.openFile path
      return opened.attach ⟨.file, Level.debug, names⟩
  | none => return logbook

/-- The outlets of earlier journals are detached and the loggers are restarted before a journal
attaches its own outlets. The opening record is the first that they get. -/
def openJournal (logbook : Logbook) (journal : Journal) :
    Except OpenError (Logbook × Journal) := do
  let loggers := logbook.loggers.restart journal.logger
  let ready ← { logbook.detachAll with loggers := loggers }.attachFile journal.file
  let complete := ready.attach ⟨.console, journal.consoleLevel, none⟩
  return (complete.emit journal.logger journal.opening, journal)

/-- The records are emitted one after another. -/
def keep (logbook : Logbook) (journal : Journal) (records : List Record) : Logbook :=
  records.foldl (fun kept record => kept.emit journal.logger record) logbook

def heard (logbook : Logbook) (journal : Journal) (records : List Record) : List Record :=
  journal.heard logbook.loggers records

/-- Each attached console shows a record that it takes. -/
def showings (logbook : Logbook) (record : Record) : List Record :=
  (logbook.attached.filter fun attachment =>
    attachment.outlet = .console && attachment.takes record).map fun _ => record

/-- The consoles show the records that the journal hears. -/
def shown (logbook : Logbook) (journal : Journal) (records : List Record) : List Record :=
  (logbook.heard journal records).flatMap logbook.showings

/-- The files after some records are read with the lines of these. -/
def filesAfter (logbook : Logbook) (journal : Journal) (records : List Record) :
    Path → Except Fault (List UInt8) :=
  (logbook.keep journal records).directory.bytes

end Logbook

end OfficeMachine.Storage
