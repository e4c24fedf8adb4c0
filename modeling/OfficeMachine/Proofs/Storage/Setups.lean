/-
This file tells where records go while the journals of one logger are set up one after another. Each
setup detaches the outlets of the earlier ones, so no record is lost, doubled or misled.
-/

import OfficeMachine.Proofs.Storage.Logbook

namespace OfficeMachine.Storage

/-- A setup opens a journal at a moment. Its records are those that are made until the next one. -/
structure Setup where
  moment : Moment
  consoleLevel : Level
  folder : Option String
  file : Option String
  records : List Record

/-- The journal of a setup has the file that is asked for, or else a new one in the folder that is
asked for. -/
def Setup.journal (setup : Setup) (logger : String) : Journal :=
  ⟨logger, Journal.chooseFile logger setup.moment.stamp setup.folder setup.file,
    setup.consoleLevel⟩

/-- A reply tells the outlets that are attached after a setup, and which of its records are heard
and shown. -/
structure Reply where
  attached : List Attachment
  heard : List Record
  shown : List Record

namespace Logbook

/-- A setup is served by opening its journal and keeping its records. -/
def serve (logbook : Logbook) (logger : String) (setup : Setup) :
    Except OpenError (Logbook × Reply) := do
  let (opened, journal) ←
    { logbook with moment := setup.moment }.openJournal (setup.journal logger)
  return (opened.keep journal setup.records,
    ⟨opened.attached, opened.heard journal setup.records, opened.shown journal setup.records⟩)

/-- The setups of one logger follow one another. -/
def serveAll (logbook : Logbook) (logger : String) :
    List Setup → Except OpenError (Logbook × List Reply)
  | [] => .ok (logbook, [])
  | setup :: rest => do
      let (next, reply) ← logbook.serve logger setup
      let (last, replies) ← next.serveAll logger rest
      return (last, reply :: replies)

end Logbook

/-- A setup is answered if exactly the outlets of its journal are attached, its opening record has a
line, its journal hears what it has to hear, and the console shows what is heard from its level on. -/
structure Setup.IsAnswered (setup : Setup) (start : Hierarchy) (logger : String)
    (directory : Directory) (reply : Reply) : Prop where
  attached : reply.attached = (setup.journal logger).attachments directory
  opens : ∃ line, (setup.journal logger).opening.line? setup.moment = some line
  hears : Hears start logger setup.records reply.heard
  shown : reply.shown = reply.heard.filter fun record => setup.consoleLevel ≤ record.level

/-- A setup adds its opening record and the records that are heard to its own file. -/
def Setup.bytesFor (setup : Setup) (logger : String) (directory : Directory)
    (names : List String) (heard : List Record) : List UInt8 :=
  if (setup.journal logger).target? directory = some names
  then ((setup.journal logger).opening :: heard).flatMap (Record.bytes setup.moment)
  else []

namespace Logbook

section Setups

variable {logbook last : Logbook} {logger : String}

/-- One setup is answered, and only its own file gets more bytes. -/
theorem serve_spec {start : Hierarchy} {setup : Setup} {reply : Reply}
    (strays : Loggers.KeepsStrays start logger logbook.loggers)
    (served : logbook.serve logger setup = .ok (last, reply)) :
    setup.IsAnswered start logger logbook.directory reply ∧
    Loggers.KeepsStrays start logger last.loggers ∧
    last.directory.location = logbook.directory.location ∧
    ∀ names, last.directory.content names = logbook.directory.content names ++
      setup.bytesFor logger logbook.directory names reply.heard := by
  rw [serve, bind_eq_ok_iff] at served
  obtain ⟨⟨opened, journal⟩, success, served⟩ := served
  obtain ⟨rfl, rfl⟩ := Prod.mk.inj (Except.ok.inj served)
  obtain ⟨rfl, isOpen⟩ := isOpen_openJournal success strays
  have opens := (setup.journal logger).exists_line_opening setup.moment
  have hears := (setup.journal logger).hears_heard isOpen.serves setup.records
  refine ⟨⟨isOpen.attached, opens, hears, ?_⟩, ?_, ?_, fun names => ?_⟩
  · exact flatMap_showings isOpen.attached _
  · exact (serves_keep isOpen.serves setup.records).strays
  · rw [location_keep isOpen.ready, isOpen.location]
  · have goes : ∀ record ∈ opened.heard (setup.journal logger) setup.records,
        opened.bytesFor names record =
          if (setup.journal logger).target? logbook.directory = some names
          then record.bytes setup.moment else [] := by
      intro record member
      rw [bytesFor, isOpen.attached, isOpen.moment]
      exact Journal.flatMap_attachments _ _ _ names (hears.belongs record member).1
    rw [content_keep isOpen.ready, isOpen.content, List.append_assoc, List.flatMap_congr goes,
      Setup.bytesFor]
    split <;> simp

/-- All setups are answered one after another, and each file gets what they add to it. -/
theorem serveAll_spec {start : Hierarchy} {setups : List Setup} {replies : List Reply}
    (strays : Loggers.KeepsStrays start logger logbook.loggers)
    (served : logbook.serveAll logger setups = .ok (last, replies)) :
    List.Forall₂ (fun setup reply => setup.IsAnswered start logger logbook.directory reply)
      setups replies ∧
    ∀ names, last.directory.content names = logbook.directory.content names ++
      (List.zipWith (fun setup reply =>
        setup.bytesFor logger logbook.directory names reply.heard) setups replies).flatten := by
  induction setups generalizing logbook replies with
  | nil =>
      cases served
      exact ⟨.nil, by simp⟩
  | cons setup rest inductionHypothesis =>
      obtain ⟨⟨next, reply⟩, first, served⟩ := bind_eq_ok_iff.mp served
      obtain ⟨⟨last, others⟩, remaining, served⟩ := bind_eq_ok_iff.mp served
      obtain ⟨rfl, rfl⟩ := Prod.mk.inj (Except.ok.inj served)
      obtain ⟨answered, straysAfter, location, content⟩ := serve_spec strays first
      obtain ⟨answeredAll, contentAfter⟩ := inductionHypothesis straysAfter remaining
      -- The directory stays where it is, so the later setups have the same files in it.
      refine ⟨.cons answered (answeredAll.imp fun setup reply given => ?_), fun names => ?_⟩
      · exact { given with
          attached := given.attached.trans (Journal.attachments_congr location _) }
      · rw [contentAfter, content, List.append_assoc, List.zipWith_cons_cons, List.flatten_cons]
        simp only [Setup.bytesFor, Journal.target?_congr location]

end Setups

def noon : Moment := ⟨"20240101_120000", "2024-01-01 12:00:00"⟩

def officeLogbook : Logbook := .new (.empty ⟨"/", ["office"]⟩) noon

def parsedRecord : Record :=
  ⟨Level.debug, "office.parser", ⟨"parse", 125⟩, "Parsed 3 instructions"⟩

def finishedRecord : Record := ⟨Level.info, "office", ⟨"main", 109⟩, "Finished after 3 steps"⟩

/-- The name of this logger only starts like that of the office. -/
def elsewhereRecord : Record := ⟨40, "officer", ⟨"main", 109⟩, "Elsewhere"⟩

/-- The second of these setups names the file of the first one again. -/
def repeatedSetups : List Setup :=
  [⟨noon, Level.warning, none, some "run.log", [parsedRecord]⟩,
    ⟨noon, Level.info, some "logs", some "./run.log", [elsewhereRecord, finishedRecord]⟩]

/-- The name of this logger goes on with two dots. -/
def dottedRecord : Record := ⟨40, "office..parser", ⟨"parse", 125⟩, "Lost"⟩

/-- This record cannot be encoded. -/
def brokenRecord : Record := ⟨40, "office", ⟨"main", 109⟩, ⟨[.surrogate 0]⟩⟩

/-- In this logbook the logger that goes on behind `r` was made first. -/
def strayLogbook : Logbook :=
  { officeLogbook with loggers := { Loggers.none with hierarchy := Hierarchy.empty.make "r.x" } }

def strayRecord : Record := ⟨40, "r.x", ⟨"main", 109⟩, "Lost"⟩

def singleSetup (record : Record) : Setup :=
  ⟨noon, Level.warning, none, some "run.log", [record]⟩

end Logbook

end OfficeMachine.Storage
