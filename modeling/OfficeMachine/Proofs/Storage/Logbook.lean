/-
This file tells what a logbook does with the records of an open journal. The journal has no outlets
but its own, so what it hears goes once to its own file, and its own console shows it once.
-/

import OfficeMachine.Proofs.Journal.Loggers
import OfficeMachine.Proofs.Storage.Directory
import OfficeMachine.Storage.Logbook

namespace OfficeMachine

namespace Storage

namespace Attachment

/-- An outlet adds these bytes to the file with the given names when it gets a record. -/
def bytesFor (attachment : Attachment) (moment : Moment) (names : List String)
    (record : Record) : List UInt8 :=
  if attachment.takes record = true ∧ attachment.outlet = .file ∧ attachment.names = some names
  then record.bytes moment
  else []

/-- An outlet is ready if its file is there. -/
def IsReady (directory : Directory) (attachment : Attachment) : Prop :=
  ∀ names, attachment.names = some names → directory.HasFile names

variable {attachment other : Attachment} {directory : Directory}

theorem content_write (ready : attachment.IsReady directory) (moment : Moment)
    (record : Record) (names : List String) :
    (attachment.write moment record directory).content names =
      directory.content names ++ attachment.bytesFor moment names record := by
  unfold write bytesFor
  split
  case h_1 own takes isFile named =>
    rw [Directory.content_extend (ready own named), takes, isFile, named]
    simp only [true_and, Option.some.injEq]
  case h_2 otherwise =>
    rw [if_neg, List.append_nil]
    rintro ⟨takes, isFile, named⟩
    exact otherwise names takes isFile named

theorem IsReady.write (ready : other.IsReady directory) (attachment : Attachment)
    (moment : Moment) (record : Record) :
    other.IsReady (attachment.write moment record directory) := by
  unfold Attachment.write
  split
  · exact fun names named => (ready names named).extend _ _
  · exact ready

@[simp] theorem location_write (attachment : Attachment) (moment : Moment) (record : Record)
    (directory : Directory) :
    (attachment.write moment record directory).location = directory.location := by
  unfold write
  split
  · exact Directory.location_extend _ _ _
  · rfl

end Attachment

end Storage

namespace Journal

open Storage

/-- A journal has its file, if it is to have one, in front of the console. -/
def attachments (journal : Journal) (directory : Directory) : List Attachment :=
  (journal.file.toList.map fun path => ⟨.file, Level.debug, directory.target? path⟩) ++
    [⟨.console, journal.consoleLevel, none⟩]

/-- The file of a journal is known by its names if it lies in the directory. -/
def target? (journal : Journal) (directory : Directory) : Option (List String) :=
  journal.file.bind directory.target?

/-- The outlets depend on the location of the directory only. -/
theorem attachments_congr {directory after : Directory}
    (same : after.location = directory.location) (journal : Journal) :
    journal.attachments after = journal.attachments directory := by
  rw [attachments, attachments, Directory.target?_congr same]

theorem target?_congr {directory after : Directory} (same : after.location = directory.location)
    (journal : Journal) : journal.target? after = journal.target? directory := by
  rw [target?, target?, Directory.target?_congr same]

/-- A record from the debug level on goes to the file of a journal. -/
theorem flatMap_attachments (journal : Journal) (directory : Directory) (moment : Moment)
    (names : List String) {record : Record} (above : Level.debug ≤ record.level) :
    ((journal.attachments directory).flatMap fun attachment =>
      attachment.bytesFor moment names record) =
      if journal.target? directory = some names then record.bytes moment else [] := by
  have console (level : Level) :
      Attachment.bytesFor ⟨.console, level, none⟩ moment names record = [] := by
    simp [Attachment.bytesFor]
  rw [attachments, List.flatMap_append, List.flatMap_singleton, console, List.append_nil, target?]
  cases journal.file with
  | none => rfl
  | some path => simp [Attachment.bytesFor, Attachment.takes, above]

/-- The opening record is meant for its own logger. -/
theorem isMeantFor_opening (start : Hierarchy) (journal : Journal) :
    journal.opening.IsMeantFor start journal.logger := by
  refine ⟨Int.le_refl _, ?_⟩
  cases root : Hierarchy.isRoot journal.logger with
  | true =>
      refine ⟨.inl root, ?_⟩
      intro leftOut
      exact absurd leftOut.1 (Hierarchy.not_mem_rootStarts root)
  | false =>
      have own : journal.opening.logger = journal.logger := by
        rw [opening, root]
        rfl
      rw [own]
      exact ⟨.inr (.inl rfl), start.not_leavesOut_self journal.logger⟩

/-- The logger and the message of the opening record are texts, so that it always has a line. -/
theorem exists_line_opening (journal : Journal) (moment : Moment) :
    ∃ line, journal.opening.line? moment = some line := by
  have named : ∃ name, journal.opening.logger.text? = some name := by
    unfold opening
    split
    · exact ⟨_, Phrase.text?_ofText _⟩
    · exact ⟨_, Phrase.text?_ofText _⟩
  obtain ⟨name, named⟩ := named
  rw [Record.line?, named]
  simp [opening]

end Journal

namespace Storage

namespace Logbook

/-- A logbook is ready if all its outlets are. -/
def IsReady (logbook : Logbook) : Prop :=
  ∀ attachment ∈ logbook.attached, attachment.IsReady logbook.directory

/-- The attached outlets add these bytes to a file when they get a record. -/
def bytesFor (logbook : Logbook) (names : List String) (record : Record) : List UInt8 :=
  logbook.attached.flatMap fun attachment =>
    attachment.bytesFor logbook.moment names record

section Records

variable {logbook : Logbook}

/-- Outlets that are ready write one after another, and all of them stay ready. -/
theorem foldl_write {outlets : List Attachment} {directory : Directory}
    (ready : ∀ attachment ∈ outlets, attachment.IsReady directory) (moment : Moment)
    (record : Record) :
    let written := outlets.foldl
      (fun directory attachment => attachment.write moment record directory) directory
    (∀ names, written.content names = directory.content names ++
      outlets.flatMap fun attachment => attachment.bytesFor moment names record) ∧
    (∀ other : Attachment, other.IsReady directory → other.IsReady written) ∧
    written.location = directory.location := by
  induction outlets generalizing directory with
  | nil => simp
  | cons attachment rest inductionHypothesis =>
      rw [List.forall_mem_cons] at ready
      obtain ⟨content, stay, location⟩ :=
        inductionHypothesis fun other member => (ready.2 other member).write attachment moment record
      refine ⟨fun names => ?_, fun other isReady => stay other (isReady.write _ _ _), ?_⟩
      · rw [List.foldl_cons, content, Attachment.content_write ready.1, List.append_assoc,
          List.flatMap_cons]
      · rw [List.foldl_cons, location, Attachment.location_write]

/-- A record that is emitted is written if it arrives. -/
theorem content_emit (ready : logbook.IsReady) (upper : String) (record : Record)
    (names : List String) : (logbook.emit upper record).directory.content names =
      logbook.directory.content names ++
        if (logbook.loggers.meet upper record).delivers upper record
        then logbook.bytesFor names record else [] := by
  simp only [emit]
  split
  · exact (foldl_write ready logbook.moment record).1 names
  · rw [List.append_nil]

theorem IsReady.emit (ready : logbook.IsReady) (upper : String) (record : Record) :
    (logbook.emit upper record).IsReady := by
  intro attachment member
  simp only [Logbook.emit]
  split
  · exact (foldl_write ready logbook.moment record).2.1 attachment (ready attachment member)
  · exact ready attachment member

theorem location_emit (ready : logbook.IsReady) (upper : String) (record : Record) :
    (logbook.emit upper record).directory.location = logbook.directory.location := by
  simp only [emit]
  split
  · exact (foldl_write ready logbook.moment record).2.2
  · rfl

/-- All that a journal hears is written in its order. -/
theorem content_keep (ready : logbook.IsReady) (journal : Journal) (records : List Record)
    (names : List String) : (logbook.keep journal records).directory.content names =
      logbook.directory.content names ++
        (logbook.heard journal records).flatMap (logbook.bytesFor names) := by
  induction records generalizing logbook with
  | nil => simp [keep, heard, Journal.heard]
  | cons record rest inductionHypothesis =>
      have others := inductionHypothesis (ready.emit journal.logger record)
      rw [keep, List.foldl_cons]
      rw [keep] at others
      rw [others, content_emit ready, heard, heard, Journal.heard]
      change _ ++ (journal.heard (logbook.loggers.meet journal.logger record) rest).flatMap
        (logbook.bytesFor names) = _
      split
      · rw [List.flatMap_cons, List.append_assoc]
      · rw [List.append_nil]

theorem location_keep (ready : logbook.IsReady) (journal : Journal) (records : List Record) :
    (logbook.keep journal records).directory.location = logbook.directory.location := by
  induction records generalizing logbook with
  | nil => rfl
  | cons record rest inductionHypothesis =>
      exact (inductionHypothesis (ready.emit journal.logger record)).trans
        (location_emit ready journal.logger record)

/-- The loggers go on to serve a journal that keeps records. -/
theorem serves_keep {start : Hierarchy} {journal : Journal}
    (serves : Loggers.Serves start journal.logger logbook.loggers) (records : List Record) :
    Loggers.Serves start journal.logger (logbook.keep journal records).loggers := by
  induction records generalizing logbook with
  | nil => exact serves
  | cons record rest inductionHypothesis =>
      have met : Loggers.Serves start journal.logger (logbook.emit journal.logger record).loggers :=
        serves.meet record
      exact inductionHypothesis met

end Records

section Opening

variable {logbook opened : Logbook}

theorem refuseNull_bind {Result : Type} {path : Path} {next : Unit → Except OpenError Result}
    {result : Result} (passed : refuseNull path >>= next = .ok result) : next () = .ok result := by
  obtain ⟨_, -, rest⟩ := bind_eq_ok_iff.mp passed
  exact rest

/-- A file that was opened is known by the names that its path leads to. It is there, and opening
it adds no bytes. -/
structure Opens (logbook : Logbook) (path : Path) (opened : Logbook)
    (names : Option (List String)) : Prop where
  others : opened = { logbook with directory := opened.directory }
  grows : logbook.directory.Grows opened.directory
  target : names = logbook.directory.target? path
  hasFile : ∀ own, names = some own → opened.directory.HasFile own

theorem opens_openFile {path : Path} {names : Option (List String)}
    (success : logbook.openFile path = .ok (opened, names)) :
    logbook.Opens path opened names := by
  rw [openFile] at success
  obtain ⟨prepared, made, success⟩ := bind_eq_ok_iff.mp (refuseNull_bind success)
  obtain ⟨directory, found, success⟩ := bind_eq_ok_iff.mp (refuseNull_bind success)
  obtain ⟨rfl, rfl⟩ := Prod.mk.inj (Except.ok.inj success)
  have before := Directory.grows_makeFolder (mapError_eq_ok_iff.mp made)
  have last := mapError_eq_ok_iff.mp found
  have noDots : ".." ∉ (logbook.directory.location.absolute path).names := noDots_settled _
  have known := Directory.known_of_openFile noDots last
  refine ⟨rfl, before.trans (Directory.grows_openFile last), ?_, ?_⟩
  · rw [Directory.target?, ← before.inner?, ← before.origin]
    exact known
  · intro own same
    exact (Directory.hasFile_of_openFile noDots (known.symm.trans same) last).1

/-- Only the console of a journal shows a record, and it does so from its level on. -/
theorem showings_eq {journal : Journal} {directory : Directory}
    (attached : logbook.attached = journal.attachments directory) (record : Record) :
    logbook.showings record =
      if journal.consoleLevel ≤ record.level then [record] else [] := by
  rw [showings, attached, Journal.attachments]
  cases journal.file <;>
    by_cases above : journal.consoleLevel ≤ record.level <;>
    simp [Attachment.takes, above]

theorem flatMap_showings {journal : Journal} {directory : Directory}
    (attached : logbook.attached = journal.attachments directory) (records : List Record) :
    records.flatMap logbook.showings =
      records.filter fun record => journal.consoleLevel ≤ record.level := by
  induction records with
  | nil => rfl
  | cons record rest inductionHypothesis =>
      rw [List.flatMap_cons, showings_eq attached, inductionHypothesis, List.filter_cons]
      split <;> simp [*]

/-- A journal is open when exactly its own outlets are attached, the loggers serve its logger, and its
file has got the opening record. -/
structure IsOpen (start : Hierarchy) (logbook : Logbook) (journal : Journal) (opened : Logbook) :
    Prop where
  attached : opened.attached = journal.attachments logbook.directory
  moment : opened.moment = logbook.moment
  location : opened.directory.location = logbook.directory.location
  ready : opened.IsReady
  serves : Loggers.Serves start journal.logger opened.loggers
  content : ∀ names, opened.directory.content names = logbook.directory.content names ++
    if journal.target? logbook.directory = some names
    then journal.opening.bytes logbook.moment else []

/-- A file that is attached to a logbook without outlets is ready. -/
theorem attachFile_spec {file : Option Path} (bare : logbook.attached = [])
    (success : logbook.attachFile file = .ok opened) :
    opened = ⟨opened.directory, logbook.moment, logbook.loggers,
      file.toList.map fun path => ⟨.file, Level.debug, logbook.directory.target? path⟩⟩ ∧
    logbook.directory.Grows opened.directory ∧ opened.IsReady := by
  cases file with
  | none =>
      cases success
      obtain ⟨directory, moment, loggers, attached⟩ := logbook
      obtain rfl : attached = [] := bare
      exact ⟨rfl, Directory.Grows.refl _, by simp [IsReady]⟩
  | some path =>
      obtain ⟨⟨filed, names⟩, found, success⟩ := bind_eq_ok_iff.mp success
      obtain rfl := Except.ok.inj success
      have opens := opens_openFile found
      have attached : filed.attached = [] := by
        rw [opens.others]
        exact bare
      refine ⟨?_, opens.grows, ?_⟩
      · rw [attach, attached, opens.target, opens.others]
        rfl
      · intro attachment member own named
        have only : attachment = ⟨.file, Level.debug, names⟩ := by
          simpa [attach, attached] using member
        rw [only] at named
        exact opens.hasFile own named

/-- Whatever outlets were attached before, a journal that was opened is open. -/
theorem isOpen_openJournal {start : Hierarchy} {journal target : Journal}
    (success : logbook.openJournal journal = .ok (opened, target))
    (strays : Loggers.KeepsStrays start journal.logger logbook.loggers) :
    target = journal ∧ IsOpen start logbook journal opened := by
  rw [openJournal, bind_eq_ok_iff] at success
  obtain ⟨filed, fileAttached, success⟩ := success
  obtain ⟨rfl, rfl⟩ := Prod.mk.inj (Except.ok.inj success)
  obtain ⟨same, grows, fileReady⟩ := attachFile_spec rfl fileAttached
  generalize console : filed.attach ⟨.console, journal.consoleLevel, none⟩ = complete
  have attached : complete.attached = journal.attachments logbook.directory := by
    rw [← console, same]
    rfl
  have directory : complete.directory = filed.directory := by rw [← console]; rfl
  have moment : complete.moment = logbook.moment := by rw [← console, same]; rfl
  have ready : complete.IsReady := by
    intro attachment member
    rw [← console] at member
    rcases List.mem_append.mp member with isFile | isConsole
    · rw [directory]
      exact fileReady attachment isFile
    · rw [List.mem_singleton.mp isConsole]
      intro names named
      cases named
  have serves : Loggers.Serves start journal.logger complete.loggers := by
    rw [← console, same]
    exact Loggers.serves_restart strays
  have meant := journal.isMeantFor_opening start
  refine ⟨rfl, attached, moment, ?_, ready.emit _ _, serves.meet _, fun names => ?_⟩
  · rw [location_emit ready, directory, grows.location]
    rfl
  · rw [content_emit ready, if_pos (serves.delivers meant.1 meant.2), bytesFor, attached,
      journal.flatMap_attachments _ _ names meant.1, directory, grows.content, moment]
    rfl

/-- Outlets without files leave the directory alone. -/
theorem foldl_write_of_noFile {outlets : List Attachment}
    (noFile : ∀ attachment ∈ outlets, attachment.names = none) (moment : Moment) (record : Record)
    (directory : Directory) :
    outlets.foldl (fun directory attachment => attachment.write moment record directory)
      directory = directory := by
  induction outlets with
  | nil => rfl
  | cons attachment rest inductionHypothesis =>
      rw [List.forall_mem_cons] at noFile
      have first : attachment.write moment record directory = directory := by
        simp [Attachment.write, noFile.1]
      rw [List.foldl_cons, first, inductionHypothesis noFile.2]

theorem directory_keep_of_noFile (noFile : ∀ attachment ∈ logbook.attached, attachment.names = none)
    (journal : Journal) (records : List Record) :
    (logbook.keep journal records).directory = logbook.directory := by
  induction records generalizing logbook with
  | nil => rfl
  | cons record rest inductionHypothesis =>
      have first : (logbook.emit journal.logger record).directory = logbook.directory := by
        simp only [emit, written, foldl_write_of_noFile noFile, ite_self]
      have others := @inductionHypothesis (logbook.emit journal.logger record) noFile
      exact others.trans first

/-- A journal without a file can always be opened, and the directory stays as it is. -/
theorem exists_openJournal_of_noFile (logbook : Logbook) {journal : Journal}
    (noFile : journal.file = none) :
    ∃ opened, logbook.openJournal journal = .ok (opened, journal) ∧
      ∀ records, (opened.keep journal records).directory = logbook.directory := by
  let bare : Logbook := ⟨logbook.directory, logbook.moment,
    logbook.loggers.restart journal.logger, [⟨.console, journal.consoleLevel, none⟩]⟩
  have noNames : ∀ attachment ∈ bare.attached, attachment.names = none := by simp [bare]
  refine ⟨bare.emit journal.logger journal.opening, ?_, fun records => ?_⟩
  · rw [openJournal, noFile]
    rfl
  · exact directory_keep_of_noFile noNames journal (journal.opening :: records)

end Opening

end Logbook

end Storage

end OfficeMachine
