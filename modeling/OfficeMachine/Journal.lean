/-
This file defines journals. A journal hears the records of its logger and of the loggers below it,
writes all of them to its file and shows those of its console level.
-/

import OfficeMachine.Journal.Loggers
import OfficeMachine.Storage.Path

namespace OfficeMachine

structure Journal where
  logger : String
  file : Option Storage.Path
  consoleLevel : Level
  deriving DecidableEq

namespace Journal

/-- The file that is asked for wins over a new file in the folder that is asked for. The name of a
new file holds the logger and the time stamp. -/
def chooseFile (logger stamp : String) (folder file : Option String) : Option Storage.Path :=
  match file, folder with
  | some file, _ => some (Storage.Path.ofText file)
  | none, some folder =>
      some ((Storage.Path.ofText folder).join (Storage.Path.ofText s!"{logger}_{stamp}.log"))
  | none, none => none

/-- The opening record tells how the journal is set up. The root makes it under one of its names
only. -/
def opening (journal : Journal) : Record where
  level := Level.debug
  logger := if Hierarchy.isRoot journal.logger then rootName else journal.logger
  origin := ⟨"setup_logging", 77⟩
  message :=
    let file := match journal.file with
      | some path => path.text
      | none => "None"
    s!"Logger initialized: {journal.logger} " ++
      s!"(console level {journal.consoleLevel.name}, file {file})"

/-- The journal hears the records that the loggers deliver to its own logger. -/
def heard (journal : Journal) (loggers : Loggers) : List Record → List Record
  | [] => []
  | record :: rest =>
      let met := loggers.meet journal.logger record
      if met.delivers journal.logger record then record :: journal.heard met rest
      else journal.heard met rest

/-- The console shows the records that the journal heard from the console level on. -/
def shown (journal : Journal) (heard : List Record) : List Record :=
  heard.filter fun record => journal.consoleLevel ≤ record.level

/-- The records of a journal go to its file and to the console. -/
inductive Outlet where
  | file
  | console
  deriving DecidableEq

end Journal

end OfficeMachine
