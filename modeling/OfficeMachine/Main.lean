/-
This file runs the command line on the files of the system. It opens the journal, reads the two
files that a session may ask for, and prints what the session reports.
-/

import Std.Time.Format
import OfficeMachine.CommandLine.Performance

namespace OfficeMachine.CommandLine

def faultOf : IO.Error → Storage.Fault
  | .permissionDenied _ _ _ => .denied
  | .alreadyExists _ _ _ => .existing
  | .inappropriateType _ code _ => if code = 21 then .isFolder else .notFolder
  | .invalidArgument _ _ _ => .nameTooLong
  | _ => .missing

def readBytes (path : Storage.Path) : IO (Except Storage.Fault (List UInt8)) := do
  try
    let bytes ← IO.FS.readBinFile path.text
    return .ok bytes.toList
  catch error => return .error (faultOf error)

/-- A session asks for its script and for one file that holds its floor. -/
def gatherFiles (settings : Settings) : IO Storage.Files := do
  let scriptPath := Storage.Path.ofText (settings.script.getD "")
  let script ← readBytes scriptPath
  let floor ← match settings.memory with
    | [given] => readBytes (Storage.Path.ofText given)
    | _ => pure (.error .missing)
  return fun path => if path = scriptPath then script else floor

def onFault {Result : Type} (path : Storage.Path) (action : IO Result) :
    IO (Except Storage.OpenError Result) := do
  try
    let result ← action
    return .ok result
  catch error => return .error (.fault (faultOf error) path)

/-- A journal file that exists already is continued. -/
def openJournal (journal : Journal) :
    IO (Except Storage.OpenError (Option IO.FS.Handle)) := do
  match journal.file with
  | none => return .ok none
  | some path =>
      if path.text.toList.contains '\x00' then return .error .nullCharacter
      else
        match ← onFault path.parent (IO.FS.createDirAll path.parent.text) with
        | .error error => return .error error
        | .ok () =>
            let location := Storage.Path.ofText (toString (← IO.currentDir))
            let whole := location.absolute path
            return (← onFault whole (IO.FS.Handle.mk whole.text .append)).map some

def currentMoment : IO Moment := do
  let now ← Std.Time.PlainDateTime.now
  return ⟨now.format "uuuuMMdd_HHmmss", now.format "uuuu-MM-dd HH:mm:ss"⟩

def printReport (report : Report) : IO UInt32 := do
  IO.print report.output
  IO.eprint report.errors
  return report.code.toUInt32

/-- The opening record is written before the session looks for its files. The records of the
console go to the standard error, ahead of the report. -/
def runInJournal (settings : Settings) (moment : Moment) (journal : Journal)
    (handle : Option IO.FS.Handle) : IO UInt32 := do
  let write (record : Record) : IO Unit := do
    if let (some file, some line) := (handle, record.line? moment) then
      file.putStr line
      file.flush
  write journal.opening
  let files ← gatherFiles settings
  let session := settings.run fun _ => files
  let heard := journal.heard (Loggers.none.restart journal.logger) session.records
  heard.forM write
  for record in journal.shown heard do
    IO.eprintln record.text
  printReport session.report

def refuse (error : Storage.OpenError) : IO UInt32 := do
  IO.eprintln error.message
  return 1

def runSettings (settings : Settings) : IO UInt32 := do
  let moment ← currentMoment
  match settings.journal moment with
  | .error error => refuse error
  | .ok journal =>
      match ← openJournal journal with
      | .error error => refuse error
      | .ok handle => runInJournal settings moment journal handle

end OfficeMachine.CommandLine

def main (arguments : List String) : IO UInt32 :=
  match OfficeMachine.CommandLine.Settings.read arguments with
  | .error ending => OfficeMachine.CommandLine.printReport ending.report
  | .ok settings => OfficeMachine.CommandLine.runSettings settings
