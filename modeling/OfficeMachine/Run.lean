/-
This file runs programs and scripts from the start to the outcome.
-/

import OfficeMachine.Machine.Run
import OfficeMachine.Script.Reader

namespace OfficeMachine

/-- The setting of a run is what lies on the inbox and the floor, and how far the run may go. -/
structure Setting where
  inbox : List Box
  initial : Table Int Box
  bound : Option Int
  limit : Option Int
  patience : Nat

def Program.machine (program : Program) (setting : Setting) : Except LayoutError Machine :=
  Machine.build program setting.initial setting.inbox setting.bound

/-- A program runs once on a new machine. -/
def Program.run (program : Program) (setting : Setting) : Except LayoutError RunOutcome :=
  (program.machine setting).map fun machine =>
    (machine.run setting.limit setting.patience).outcome

inductive ScriptRunError where
  | unreadable (failure : Script.Failure)
  | misplaced (error : LayoutError)

/-- A script is read before anything else happens. -/
def Script.run (source : String) (setting : Setting) : Except ScriptRunError RunOutcome :=
  match Script.read source with
  | .error failure => .error (.unreadable failure)
  | .ok program => (program.run setting).mapError .misplaced

end OfficeMachine
