/-
This file defines records. A record is a message of a logger at a level, and journal files have a line
for it.
-/

import OfficeMachine.Journal.Phrase

namespace OfficeMachine

/-- A moment is written in the names of new files and at the start of lines. -/
structure Moment where
  stamp : String
  text : String

/-- A level is a number, and five of them besides zero have names. -/
abbrev Level := Int

namespace Level

def debug : Level := 10

def info : Level := 20

def warning : Level := 30

def name (level : Level) : String :=
  if level = 0 then "NOTSET"
  else if level = debug then "DEBUG"
  else if level = info then "INFO"
  else if level = warning then "WARNING"
  else if level = 40 then "ERROR"
  else if level = 50 then "CRITICAL"
  else s!"Level {level}"

/-- A higher verbosity shows more records. -/
def ofVerbosity (count : Int) : Level :=
  if count ≤ 0 then warning else if count = 1 then info else debug

end Level

/-- The origin of a record is the line of the function that made it. -/
structure Origin where
  function : String
  line : Nat
  deriving DecidableEq

structure Record where
  level : Level
  logger : Phrase
  origin : Origin
  message : Phrase
  deriving DecidableEq

namespace Record

/-- Consoles show a record without its origin. -/
def text (record : Record) : String :=
  s!"{record.level.name} {record.logger.shown}: {record.message.shown}"

/-- The line of a record has five fields, and the level stands in a column of its own. A record has no
line if its logger or its message is no text. -/
def line? (moment : Moment) (record : Record) : Option String := do
  let logger ← record.logger.text?
  let message ← record.message.text?
  let level := record.level.name
  let padding := String.ofList (List.replicate (7 - level.length) ' ')
  return s!"{moment.text} | {level}{padding} | {logger} | " ++
    s!"{record.origin.function}:{record.origin.line} | {message}\n"

/-- A file gets the encoded line of a record, or nothing if there is none. -/
def bytes (moment : Moment) (record : Record) : List UInt8 :=
  match record.line? moment with
  | some line => line.toUTF8.toList
  | none => []

end Record

end OfficeMachine
