/-
This file reads a script in two passes. The first pass collects the labels and the instructions
line by line, and the second one replaces each label name by the index that it marks.
-/

import OfficeMachine.Program
import OfficeMachine.Script.Error

namespace OfficeMachine.Script

/-- A label marks the index of the next instruction and was declared on a line. -/
structure Mark where
  index : Nat
  line : Nat
  deriving DecidableEq

/-- A pending instruction still names the label that it jumps to. -/
structure Pending where
  opcode : Opcode
  operand : Operand
  line : Line
  deriving DecidableEq

structure Draft where
  marks : Table String Mark
  pending : Array Pending
  deriving DecidableEq

def Draft.empty : Draft := ⟨Table.empty, #[]⟩

/-- The label table gives the index of each label in the order of the declarations. -/
def Draft.labels (draft : Draft) : Table String Int :=
  draft.marks.mapValues fun mark => (mark.index : Int)

/-- A statement suits the draft unless it declares a label that the draft has. -/
def Draft.judge (draft : Draft) (line : Line) : Except Failure Statement :=
  match Statement.read line.tokens with
  | .error refusal => .error (refusal.on line)
  | .ok (.act opcode operand) => .ok (.act opcode operand)
  | .ok (.label name) =>
      match draft.marks.find? name with
      | some mark => .error ((Complaint.declaredBefore name mark.line).on line)
      | none => .ok (.label name)

/-- This function adds the statement of one line to the draft. -/
def Draft.add (draft : Draft) (line : Line) : Statement → Draft
  | .act opcode operand => { draft with pending := draft.pending.push ⟨opcode, operand, line⟩ }
  | .label name =>
      { draft with marks := draft.marks.put name ⟨draft.pending.size, line.number⟩ }

/-- The first pass stops at the first line that fails and keeps the draft from before it. -/
def Draft.addAll (draft : Draft) : List Line → Draft × Option Failure
  | [] => (draft, none)
  | line :: rest =>
      match draft.judge line with
      | .ok statement => (draft.add line statement).addAll rest
      | .error failure => (draft, some failure)

def Pending.resolve (marks : Table String Mark) (pending : Pending) :
    Except Failure Instruction :=
  match pending.operand with
  | .nothing => .ok { opcode := pending.opcode, line := pending.line.number }
  | .tile address =>
      .ok { opcode := pending.opcode, address := some address, line := pending.line.number }
  | .label name =>
      match marks.find? name with
      | some mark =>
          .ok { opcode := pending.opcode, target := some mark.index, line := pending.line.number }
      | none => .error ((Complaint.undeclared name).on pending.line)

/-- The second pass fails at the first jump to a label that no line declares. -/
def Draft.resolve (draft : Draft) : Except Failure Program := do
  let instructions ← draft.pending.toList.mapM (Pending.resolve draft.marks)
  return ⟨instructions.toArray, draft.labels⟩

end OfficeMachine.Script
