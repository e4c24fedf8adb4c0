/-
This file defines the script reader. A reader keeps the draft of the last script, and it starts
each script afresh.
-/

import OfficeMachine.Script.Draft

namespace OfficeMachine.Script

/-- A reading tells its outcome and the line that closed the script, if the first pass came to
it. -/
structure Reading where
  outcome : Except Failure Program
  closing : Option Nat

structure Reader where
  draft : Draft

def Reader.fresh : Reader := ⟨Draft.empty⟩

/-- The labels of the last script remain known, also after a failure. -/
def Reader.labels (reader : Reader) : Table String Int := reader.draft.labels

/-- The reader forgets the last script. -/
def Reader.restart (reader : Reader) : Reader := { reader with draft := Draft.empty }

def Reader.read (reader : Reader) (source : String) : Reading × Reader :=
  match reader.restart.draft.addAll (retainedLines source) with
  | (draft, none) => (⟨draft.resolve, closingLine? source⟩, ⟨draft⟩)
  | (draft, some failure) => (⟨.error failure, none⟩, ⟨draft⟩)

/-- A script alone is read by a fresh reader. -/
def read (source : String) : Except Failure Program := (Reader.fresh.read source).1.outcome

end OfficeMachine.Script
