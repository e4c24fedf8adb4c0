/-
This file tells which records a journal hears. It hears the records of its logger and of the loggers
whose names go on with one dot from the debug level on, in their order, and no records of loggers
with other names. Only loggers that the hierarchy left out before may stay unheard.
-/

import OfficeMachine.Journal
import OfficeMachine.Proofs.Journal.Hierarchy

namespace OfficeMachine

namespace Loggers

/-- A logger is under another one if its name is the same or goes on with a dot. All loggers are
under the root. -/
def IsUnder (upper lower : Phrase) : Prop :=
  Hierarchy.isRoot upper = true ∨ lower = upper ∨ IsAbove upper lower

/-- A logger is plainly under another one if its name does not go on with a second dot. -/
def IsPlainlyUnder (upper lower : Phrase) : Prop :=
  Hierarchy.isRoot upper = true ∨ lower = upper ∨ GoesOn upper lower

instance (upper lower : Phrase) : Decidable (IsPlainlyUnder upper lower) :=
  inferInstanceAs (Decidable (_ ∨ _ ∨ _))

/-- A logger belongs to an upper one if it is plainly under it and the hierarchy did not leave it
out. -/
def Belongs (start : Hierarchy) (upper lower : Phrase) : Prop :=
  IsPlainlyUnder upper lower ∧ ¬start.LeavesOut upper lower

instance (start : Hierarchy) (upper lower : Phrase) : Decidable (Belongs start upper lower) :=
  inferInstanceAs (Decidable (_ ∧ _))

/-- Loggers have no other strays of an upper one than at the start. -/
def KeepsStrays (start : Hierarchy) (upper : Phrase) (loggers : Loggers) : Prop :=
  Hierarchy.isRoot upper = false → ∀ stray, loggers.hierarchy.IsStray upper stray →
    start.IsStray upper stray

/-- Loggers serve an upper one that is known among them. They have no other strays than at the start.
Their decisions let nothing pass below the debug level, and they let pass everything else from the
loggers that belong to the upper one. -/
structure Serves (start : Hierarchy) (upper : Phrase) (loggers : Loggers) : Prop where
  known : Hierarchy.isRoot upper = false → loggers.hierarchy.isKnown upper = true
  strays : KeepsStrays start upper loggers
  settled : ∀ lower level passes, loggers.decisions.find? (lower, level) = some passes →
    (passes = true → Level.debug ≤ level) ∧
      (Belongs start upper lower → Level.debug ≤ level → passes = true)

variable {start : Hierarchy} {loggers : Loggers} {upper lower : Phrase} {record : Record}

section Reach

/-- A logger only reaches loggers that it is under. -/
theorem isUnder_of_reaches (reached : loggers.reaches upper lower = true) :
    IsUnder upper lower := by
  rw [reaches, Bool.or_eq_true] at reached
  rcases reached with root | led
  · exact .inl root
  · exact .inr (Hierarchy.isAbove_of_leads led)

/-- A known logger reaches the one that it belongs to. -/
theorem Serves.reaches (serves : Serves start upper loggers) (belongs : Belongs start upper lower)
    (present : Hierarchy.isRoot lower = true ∨ loggers.hierarchy.isKnown lower = true) :
    loggers.reaches upper lower = true := by
  unfold Loggers.reaches
  cases root : Hierarchy.isRoot upper with
  | true => rfl
  | false =>
      rw [Bool.false_or]
      obtain ⟨isRoot | same | goesOn, included⟩ := belongs
      · rw [root] at isRoot
        cases isRoot
      · rw [same]
        exact loggers.hierarchy.leads_self upper
      have lowerKnown : loggers.hierarchy.isKnown lower = true := by
        rcases present with isRoot | known
        · rw [Hierarchy.isRoot_eq_false_of_isAbove goesOn.1] at isRoot
          cases isRoot
        · exact known
      have upperKnown := serves.known root
      refine Hierarchy.leads_of_goesOn (Hierarchy.ne_blank_of_isRoot root) upperKnown lowerKnown
        goesOn ?_
      intro stray isStray
      have short := isStray.mem_rootStarts root upperKnown
      have early := serves.strays root stray isStray
      exact ⟨fun same => included (early.leavesOut short (.inl same)),
        fun above => included (early.leavesOut short (.inr above))⟩

end Reach

section Decisions

/-- Loggers that are restarted serve the logger that restarts them. -/
theorem serves_restart (strays : KeepsStrays start upper loggers) :
    Serves start upper (loggers.restart upper) where
  known := fun other => loggers.hierarchy.isKnown_make other
  strays := fun other stray isStray =>
    strays other stray (isStray.of_make (Hierarchy.ne_blank_of_isRoot other) (.inr rfl))
  settled := by
    intro lower level passes decided
    cases decided

theorem Serves.makeKnown (serves : Serves start upper loggers) (name : Phrase) :
    Serves start upper (loggers.makeKnown name) where
  known := fun other => Hierarchy.isKnown_make_of_isKnown (serves.known other) name
  strays := fun other stray isStray => serves.strays other stray
    (isStray.of_make (Hierarchy.ne_blank_of_isRoot other) (.inl (serves.known other)))
  settled := serves.settled

/-- A new decision is as it should be. -/
theorem Serves.settle (serves : Serves start upper loggers) (record : Record)
    (present : Hierarchy.isRoot record.logger = true ∨
      loggers.hierarchy.isKnown record.logger = true) :
    Serves start upper (loggers.settle upper record) := by
  unfold Loggers.settle
  split
  case h_1 => exact serves
  case h_2 =>
    refine ⟨serves.known, serves.strays, ?_⟩
    intro lower level passes decided
    simp only [Table.find?_put] at decided
    split at decided
    case isFalse => exact serves.settled lower level passes decided
    case isTrue same =>
      obtain ⟨rfl, rfl⟩ := Prod.mk.inj same
      obtain rfl := Option.some.inj decided
      constructor
      · intro passed
        have above : threshold (loggers.reaches upper record.logger) ≤ record.level := by
          simpa using passed
        cases reached : loggers.reaches upper record.logger with
        | true => simpa [reached, threshold] using above
        | false =>
            rw [reached] at above
            exact Int.le_trans (by decide) above
      · intro belongs above
        simpa [serves.reaches belongs present, threshold] using above

theorem isKnown_makeKnown (loggers : Loggers) (name : Phrase) :
    Hierarchy.isRoot name = true ∨ (loggers.makeKnown name).hierarchy.isKnown name = true := by
  cases root : Hierarchy.isRoot name with
  | true => exact .inl rfl
  | false => exact .inr (loggers.hierarchy.isKnown_make root)

theorem Serves.meet (serves : Serves start upper loggers) (record : Record) :
    Serves start upper (loggers.meet upper record) :=
  (serves.makeKnown record.logger).settle record (loggers.isKnown_makeKnown record.logger)

theorem hierarchy_meet (loggers : Loggers) (upper : Phrase) (record : Record) :
    (loggers.meet upper record).hierarchy = (loggers.makeKnown record.logger).hierarchy := by
  unfold meet settle
  split <;> rfl

/-- A record that is met has been decided about. -/
theorem exists_decision_meet (loggers : Loggers) (upper : Phrase) (record : Record) :
    ∃ passes, (loggers.meet upper record).decisions.find? (record.logger, record.level) =
      some passes := by
  unfold meet settle
  split
  case h_1 passes decided => exact ⟨passes, decided⟩
  case h_2 => exact ⟨_, by rw [Table.find?_put, if_pos rfl]⟩

/-- A record only arrives from the debug level on and from a logger under the upper one. -/
theorem Serves.of_delivers (serves : Serves start upper loggers)
    (arrives : (loggers.meet upper record).delivers upper record = true) :
    Level.debug ≤ record.level ∧ IsUnder upper record.logger := by
  obtain ⟨passes, decided⟩ := exists_decision_meet loggers upper record
  rw [delivers, decided, Option.getD_some, Bool.and_eq_true] at arrives
  exact ⟨((serves.meet record).settled _ _ _ decided).1 arrives.2, isUnder_of_reaches arrives.1⟩

/-- A record arrives if it is from the debug level on and its logger belongs to the upper one. -/
theorem Serves.delivers (serves : Serves start upper loggers)
    (above : Level.debug ≤ record.level) (belongs : Belongs start upper record.logger) :
    (loggers.meet upper record).delivers upper record = true := by
  obtain ⟨passes, decided⟩ := exists_decision_meet loggers upper record
  have present := loggers.isKnown_makeKnown record.logger
  rw [← hierarchy_meet loggers upper record] at present
  rw [Loggers.delivers, decided, Option.getD_some, (serves.meet record).reaches belongs present,
    Bool.true_and]
  exact ((serves.meet record).settled _ _ _ decided).2 belongs above

end Decisions

end Loggers

/-- A record is meant for a logger from the debug level on if its own logger belongs to that one. -/
def Record.IsMeantFor (start : Hierarchy) (logger : Phrase) (record : Record) : Prop :=
  Level.debug ≤ record.level ∧ Loggers.Belongs start logger record.logger

instance (start : Hierarchy) (logger : Phrase) (record : Record) :
    Decidable (record.IsMeantFor start logger) :=
  inferInstanceAs (Decidable (_ ∧ _))

/-- A logger hears records in their order. Among them are all that are meant for it, each as often
as it was made, and none that is below the debug level or was made elsewhere. -/
structure Hears (start : Hierarchy) (logger : Phrase) (records heard : List Record) : Prop where
  inOrder : heard.Sublist records
  complete : heard.filter (·.IsMeantFor start logger) = records.filter (·.IsMeantFor start logger)
  belongs : ∀ record ∈ heard, Level.debug ≤ record.level ∧ Loggers.IsUnder logger record.logger

/-- A journal hears the records of its logger. -/
theorem Journal.hears_heard (journal : Journal) {start : Hierarchy} {loggers : Loggers}
    (serves : Loggers.Serves start journal.logger loggers) (records : List Record) :
    Hears start journal.logger records (journal.heard loggers records) := by
  induction records generalizing loggers with
  | nil => exact ⟨.slnil, rfl, by simp [heard]⟩
  | cons record rest inductionHypothesis =>
      have others := inductionHypothesis (serves.meet record)
      simp only [heard]
      split
      case isTrue arrives =>
        refine ⟨others.inOrder.cons_cons record, ?_, ?_⟩
        · rw [List.filter_cons, List.filter_cons, others.complete]
        · exact List.forall_mem_cons.mpr ⟨serves.of_delivers arrives, others.belongs⟩
      case isFalse lost =>
        refine ⟨others.inOrder.cons record, ?_, others.belongs⟩
        have elsewhere : ¬ record.IsMeantFor start journal.logger := by
          rintro ⟨above, belongs⟩
          exact lost (serves.delivers above belongs)
        rw [List.filter_cons, if_neg (by simpa using elsewhere), others.complete]

end OfficeMachine
