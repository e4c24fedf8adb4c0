/-
This file tells which loggers hand their records on to another one. A logger hands its records on to
its parent, and it decides once for each level whether records of that level pass at all.
-/

import OfficeMachine.Journal.Hierarchy
import OfficeMachine.Journal.Record

namespace OfficeMachine

/-- A logger is known from its first record on, and it stands by its decisions about levels. -/
structure Loggers where
  hierarchy : Hierarchy
  decisions : Table (Phrase × Level) Bool

namespace Loggers

def none : Loggers := ⟨Hierarchy.empty, Table.empty⟩

/-- A new journal makes its logger known and puts an end to all decisions. -/
def restart (loggers : Loggers) (logger : Phrase) : Loggers :=
  ⟨loggers.hierarchy.make logger, Table.empty⟩

/-- A logger reaches itself, the loggers that its parents lead to and the root. -/
def reaches (loggers : Loggers) (upper lower : Phrase) : Bool :=
  Hierarchy.isRoot upper || loggers.hierarchy.leads upper lower

/-- Records pass from the debug level on if their logger reaches the journal, and otherwise from
the level of warnings on. -/
def threshold (reached : Bool) : Level := if reached then Level.debug else Level.warning

def makeKnown (loggers : Loggers) (logger : Phrase) : Loggers :=
  { loggers with hierarchy := loggers.hierarchy.make logger }

/-- The first record of a level settles whether that level passes. -/
def settle (loggers : Loggers) (upper : Phrase) (record : Record) : Loggers :=
  match loggers.decisions.find? (record.logger, record.level) with
  | some _ => loggers
  | Option.none =>
      let passes : Bool := threshold (loggers.reaches upper record.logger) ≤ record.level
      { loggers with decisions := loggers.decisions.put (record.logger, record.level) passes }

def meet (loggers : Loggers) (upper : Phrase) (record : Record) : Loggers :=
  (loggers.makeKnown record.logger).settle upper record

/-- A record arrives if its level passes and its logger reaches the upper one. -/
def delivers (loggers : Loggers) (upper : Phrase) (record : Record) : Bool :=
  loggers.reaches upper record.logger &&
    (loggers.decisions.find? (record.logger, record.level)).getD false

end Loggers

end OfficeMachine
