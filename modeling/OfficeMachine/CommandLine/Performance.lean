/-
This file performs a call in a directory. The journal is opened before the script is read, so its
file and folders are there when the session looks for its own files.
-/

import OfficeMachine.CommandLine.Session
import OfficeMachine.Storage.Logbook

namespace OfficeMachine.CommandLine

def logFolder : String := "logs"

/-- The journal of a call goes to a file only if the call asks for one. -/
def Settings.journal (settings : Settings) (moment : Moment) :
    Except Storage.OpenError Journal := do
  let folder := if settings.log then some logFolder else none
  let file ← match settings.logFile with
    | none => .ok none
    | some (.given file) => .ok (some file)
    | some .blank => .error .blankPath
  return ⟨loggerName, Journal.chooseFile loggerName moment.stamp folder file,
    Level.ofVerbosity settings.verbosity⟩

/-- A performance shows the report, the console's records and the directory as it is in the end. -/
structure Performance where
  report : Report
  console : List Record
  directory : Storage.Directory

/-- An early end has no journal. -/
def EarlyEnd.perform (ending : EarlyEnd) (directory : Storage.Directory) : Performance :=
  ⟨ending.report, [], directory⟩

def Settings.perform (settings : Settings) (logbook : Storage.Logbook) :
    Except Storage.OpenError Performance := do
  let journal ← settings.journal logbook.moment
  let (opened, target) ← logbook.openJournal journal
  let session := settings.run (opened.filesAfter target)
  return ⟨session.report, opened.shown target session.records,
    (opened.keep target session.records).directory⟩

/-- The call is given by its arguments, the directory that it starts in and its moment. -/
def perform (arguments : List String) (directory : Storage.Directory) (moment : Moment) :
    Except Storage.OpenError Performance :=
  match Settings.read arguments with
  | .error ending => .ok (ending.perform directory)
  | .ok settings => settings.perform (Storage.Logbook.new directory moment)

end OfficeMachine.CommandLine
