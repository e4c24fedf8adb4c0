/-
This file reads several scripts with one reader. The reader starts each script afresh, and the tables
that it writes in place are never those of an earlier program.
-/

import OfficeMachine.Proofs.Script.Labels

namespace OfficeMachine

/-- A value that is put into a table may be changed before. -/
theorem Table.mapValues_put {Key Value Other : Type} [DecidableEq Key] (transform : Value → Other)
    (table : Table Key Value) (key : Key) (value : Value) :
    (table.put key value).mapValues transform =
      (table.mapValues transform).put key (transform value) := by
  apply Table.ext
  change (putEntry key value table.entries).map _ = putEntry key (transform value) (table.entries.map _)
  induction table.entries with
  | nil => rfl
  | cons entry rest inductionHypothesis =>
      by_cases same : entry.1 = key
      · simp [putEntry, same]
      · simp [putEntry, same, inductionHypothesis]

namespace Script

/-- A reader reads scripts one after another. Each reading is listed with the reader after it. -/
def Reader.readEach (reader : Reader) : List String → List (Reading × Reader)
  | [] => []
  | source :: rest => reader.read source :: (reader.read source).2.readEach rest

/-- What a reader has read before does not matter to the next script. -/
theorem Reader.read_eq_fresh (reader : Reader) (source : String) :
    reader.read source = Reader.fresh.read source := rfl

theorem Reader.readEach_eq_map (reader : Reader) (sources : List String) :
    reader.readEach sources = sources.map Reader.fresh.read := by
  induction sources generalizing reader with
  | nil => rfl
  | cons source rest inductionHypothesis =>
      rw [Reader.readEach, inductionHypothesis, List.map_cons, reader.read_eq_fresh]

/-- A store holds label tables, and each table is known by its place. -/
abbrev Store := Array (Table String Int)

/-- A stored program knows the place of its label table. -/
structure StoredProgram where
  instructions : Array Instruction
  labels : Nat

/-- A later store keeps every table of an earlier one at its place. -/
def Keeps (earlier later : Store) : Prop :=
  ∀ (place : Nat) (table : Table String Int), earlier[place]? = some table →
    later[place]? = some table

theorem Keeps.trans {first second third : Store} (keeps : Keeps first second)
    (further : Keeps second third) : Keeps first third :=
  fun place table here => further place table (keeps place table here)

theorem keeps_push (store : Store) (table : Table String Int) : Keeps store (store.push table) := by
  intro place other here
  have inside := (Array.getElem?_eq_some_iff.mp here).1
  rw [Array.getElem?_push, if_neg (Nat.ne_of_lt inside)]
  exact here

/-- A store has a reading if it has the labels of the reader and those of a program at the places that
the stored result tells. -/
inductive Store.Has (store : Store) (reading : Reading × Reader) :
    Except Failure StoredProgram × Nat → Prop where
  | program {program : Program} {copy own : Nat} (outcome : reading.1.outcome = .ok program)
      (copied : store[copy]? = some program.labels) (owned : store[own]? = some reading.2.labels) :
      store.Has reading (.ok ⟨program.instructions, copy⟩, own)
  | failure {failure : Failure} {own : Nat} (outcome : reading.1.outcome = .error failure)
      (owned : store[own]? = some reading.2.labels) : store.Has reading (.error failure, own)

theorem Store.Has.keep {earlier later : Store} (keeps : Keeps earlier later)
    {reading : Reading × Reader} {result : Except Failure StoredProgram × Nat}
    (has : earlier.Has reading result) : later.Has reading result := by
  cases has with
  | program outcome copied owned => exact .program outcome (keeps _ _ copied) (keeps _ _ owned)
  | failure outcome owned => exact .failure outcome (keeps _ _ owned)

/-- A storing reader writes the labels of its draft into its own table of the store, in place. -/
structure StoringReader where
  store : Store
  draft : Draft
  own : Nat

namespace StoringReader

variable {reader done : StoringReader} {line : Line} {lines : List Line} {statement : Statement}

/-- A declaration changes the own table of the reader. -/
def add (reader : StoringReader) (line : Line) (statement : Statement) : StoringReader where
  store :=
    match statement with
    | .label name => reader.store.modify reader.own (·.put name reader.draft.pending.size)
    | .act _ _ => reader.store
  draft := reader.draft.add line statement
  own := reader.own

def addAll (reader : StoringReader) : List Line → StoringReader × Option Failure
  | [] => (reader, none)
  | line :: rest =>
      match reader.draft.judge line with
      | .ok statement => (reader.add line statement).addAll rest
      | .error failure => (reader, some failure)

/-- The reader gets a new table for the next script. -/
def restart (reader : StoringReader) : StoringReader where
  store := reader.store.push Table.empty
  draft := Draft.empty
  own := reader.store.size

/-- A program gets a copy of the own table. The reading is told with the place of the own table. -/
def read (reader : StoringReader) (source : String) :
    (Except Failure StoredProgram × Nat) × StoringReader :=
  match reader.restart.addAll (retainedLines source) with
  | (done, some failure) => ((.error failure, done.own), done)
  | (done, none) =>
      match done.draft.resolve with
      | .error failure => ((.error failure, done.own), done)
      | .ok program =>
          let copy := done.store[done.own]?.getD Table.empty
          ((.ok ⟨program.instructions, done.store.size⟩, done.own),
            { done with store := done.store.push copy })

def readEach (reader : StoringReader) :
    List String → List (Except Failure StoredProgram × Nat) × StoringReader
  | [] => ([], reader)
  | source :: rest =>
      let others := (reader.read source).2.readEach rest
      ((reader.read source).1 :: others.1, others.2)

/-- The own table of the reader has the labels of its draft. -/
def IsInStep (reader : StoringReader) : Prop :=
  reader.store[reader.own]? = some reader.draft.labels

/-- A reader goes on from an earlier one if it has the same own table and every other table of the
store is unchanged. -/
structure GoesOn (earlier later : StoringReader) : Prop where
  own : later.own = earlier.own
  others : ∀ place, place ≠ earlier.own → later.store[place]? = earlier.store[place]?

theorem GoesOn.refl (reader : StoringReader) : reader.GoesOn reader := ⟨rfl, fun _ _ => rfl⟩

theorem isInStep_add (inStep : reader.IsInStep) (line : Line) (statement : Statement) :
    (reader.add line statement).IsInStep := by
  cases statement with
  | act opcode operand => exact inStep
  | label name =>
      have labels : (reader.add line (.label name)).draft.labels =
          reader.draft.labels.put name reader.draft.pending.size := Table.mapValues_put _ _ _ _
      change (reader.store.modify reader.own _)[reader.own]? = some _
      rw [labels, Array.getElem?_modify, if_pos rfl, inStep]
      rfl

theorem goesOn_add (reader : StoringReader) (line : Line) (statement : Statement) :
    reader.GoesOn (reader.add line statement) where
  own := rfl
  others := by
    intro place other
    cases statement with
    | act opcode operand => rfl
    | label name =>
        change (reader.store.modify reader.own _)[place]? = _
        rw [Array.getElem?_modify, if_neg (Ne.symm other)]

theorem GoesOn.trans {first second third : StoringReader} (goesOn : first.GoesOn second)
    (further : second.GoesOn third) : first.GoesOn third where
  own := further.own.trans goesOn.own
  others place other :=
    (further.others place (goesOn.own ▸ other)).trans (goesOn.others place other)

/-- The first pass of a storing reader is that of its draft, and it changes no other table. -/
theorem addAll_spec (inStep : reader.IsInStep) {outcome : Option Failure}
    (passed : reader.addAll lines = (done, outcome)) :
    reader.draft.addAll lines = (done.draft, outcome) ∧ done.IsInStep ∧ reader.GoesOn done := by
  induction lines generalizing reader with
  | nil =>
      cases passed
      exact ⟨rfl, inStep, .refl _⟩
  | cons line rest inductionHypothesis =>
      unfold addAll at passed
      unfold Draft.addAll
      cases judged : reader.draft.judge line with
      | error failure =>
          rw [judged] at passed
          cases passed
          exact ⟨rfl, inStep, .refl _⟩
      | ok statement =>
          rw [judged] at passed
          obtain ⟨alike, inStepAfter, goesOn⟩ :=
            inductionHypothesis (isInStep_add inStep line statement) passed
          exact ⟨alike, inStepAfter, (goesOn_add reader line statement).trans goesOn⟩

/-- Whoever goes on from a restart keeps the tables from before it. -/
theorem GoesOn.keeps (goesOn : reader.restart.GoesOn done) : Keeps reader.store done.store := by
  intro place table here
  have inside := (Array.getElem?_eq_some_iff.mp here).1
  rw [goesOn.others place (Nat.ne_of_lt inside)]
  exact keeps_push reader.store Table.empty place table here

/-- A storing reader gives what a fresh reader gives, and it leaves all earlier tables alone. -/
theorem read_spec (reader : StoringReader) (source : String) :
    (reader.read source).2.store.Has (Reader.fresh.read source) (reader.read source).1 ∧
      Keeps reader.store (reader.read source).2.store := by
  have started : reader.restart.IsInStep := Array.getElem?_push_size
  rcases passed : reader.restart.addAll (retainedLines source) with ⟨done, outcome⟩
  obtain ⟨alike, inStep, goesOn⟩ := addAll_spec started passed
  have same : Reader.fresh.restart.draft.addAll (retainedLines source) = (done.draft, outcome) :=
    alike
  cases outcome with
  | some failure =>
      simp only [read, passed, Reader.read, same]
      exact ⟨.failure rfl inStep, goesOn.keeps⟩
  | none =>
      cases resolved : done.draft.resolve with
      | error failure =>
          simp only [read, passed, resolved, Reader.read, same]
          exact ⟨.failure rfl inStep, goesOn.keeps⟩
      | ok program =>
          have labels := (Draft.resolve_eq_ok_iff.mp resolved).2.2
          have later := keeps_push done.store program.labels
          have owned : done.store[done.own]? = some program.labels := by
            rw [labels]
            exact inStep
          simp only [read, passed, resolved, Reader.read, same, owned, Option.getD_some]
          exact ⟨.program rfl Array.getElem?_push_size (later _ _ inStep), goesOn.keeps.trans later⟩

/-- At the end of all readings the store has each of them, and it has all earlier tables. -/
theorem readEach_spec (reader : StoringReader) (sources : List String) :
    List.Forall₂ (fun source result =>
        (reader.readEach sources).2.store.Has (Reader.fresh.read source) result)
      sources (reader.readEach sources).1 ∧
      Keeps reader.store (reader.readEach sources).2.store := by
  induction sources generalizing reader with
  | nil => exact ⟨.nil, fun _ _ here => here⟩
  | cons source rest inductionHypothesis =>
      obtain ⟨has, keeps⟩ := reader.read_spec source
      obtain ⟨others, keepsAll⟩ := inductionHypothesis (reader.read source).2
      rw [readEach]
      exact ⟨.cons (has.keep keepsAll) others, keeps.trans keepsAll⟩

end StoringReader

/-- A reader that is used again has no memory. Each script is read as by a fresh reader, and the labels
afterwards are those that this script leaves behind. A reader that writes its labels in place leaves
the tables of all earlier programs as they were. -/
theorem reused_reader_has_no_memory :
    (∀ (reader : Reader) (sources : List String),
      reader.readEach sources = sources.map Reader.fresh.read) ∧
    (∀ (reader : Reader) (source : String),
      Leaves (obeyedLines source) (reader.read source).1.outcome (reader.read source).2.labels) ∧
    ∀ (reader : StoringReader) (sources : List String),
      List.Forall₂ (fun source result =>
          (reader.readEach sources).2.store.Has (Reader.fresh.read source) result)
        sources (reader.readEach sources).1 :=
  ⟨Reader.readEach_eq_map, leaves_of_read, fun reader sources => (reader.readEach_spec sources).1⟩

/-- The first script declares a name twice, the second one misses a name, and the third one succeeds. -/
example :
    (Reader.fresh.readEach ["a:\nINBOX\na:", "JUMP a\nb:", "INBOX"]).map
      (fun reading => reading.2.labels.entries) = [[("a", 0)], [("b", 1)], []] := by
  decide +kernel

end Script

end OfficeMachine
