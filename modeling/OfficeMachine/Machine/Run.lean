/-
This file runs a machine. A run ends behind the program, at a fault or at its step limit, and the
machine that is left can be looked at and, unless it stopped, run again.
-/

import OfficeMachine.Machine.Step

namespace OfficeMachine

/-- A walk through the program comes to its end, fails at an instruction or is still going on. -/
inductive Walk where
  | ended (machine : Machine)
  | failed (machine : Machine) (instruction : Instruction) (error : StepError)
  | going (machine : Machine)

/-- A walk takes at most the given number of steps. -/
def Machine.walk (machine : Machine) : Nat → Walk
  | 0 =>
      match machine.current? with
      | none => .ended machine
      | some _ => .going machine
  | steps + 1 =>
      match machine.current? with
      | none => .ended machine
      | some instruction =>
          match (Deed.perform instruction).run machine with
          | .ok _ next => next.walk steps
          | .error error left => .failed left instruction error

/-- The limit of a run counts the steps from the start of the machine on. -/
structure LimitReached where
  limit : Int
  position : Nat
  output : List Box

def LimitReached.message (reached : LimitReached) : String :=
  s!"step limit of {reached.limit} exceeded at instruction {reached.position}"

/-- A run returns the outbox or tells why it does not. The report of a limit that is not writable
fails itself. An unfinished run had no limit and came to no end within the patience of its
observer. -/
inductive RunOutcome where
  | returned (output : List Box)
  | faulted (fault : Fault)
  | noTile
  | limitReached (reached : LimitReached)
  | unwritableLimit
  | alreadyStopped
  | unfinished

structure RunReport where
  outcome : RunOutcome
  machine : Machine

def noTileMessage : String := "'NoneType' object has no attribute 'indirect'"

def alreadyStoppedMessage : String := "interpreter already ran; build a new one per run"

namespace Machine

/-- A machine that comes to the end of its program is done unless the inbox halted it. -/
def finish (machine : Machine) : Machine :=
  { machine with stop := some (machine.stop.getD .done) }

def faultAt (machine : Machine) (instruction : Instruction) (cause : Cause) : Fault where
  kind := cause.kind
  position := machine.position
  instruction := instruction
  detail := cause.detail
  output := machine.outbox

/-- The report of a walk tells what a walk that is still going on means. -/
def report (pause : Machine → RunOutcome) : Walk → RunReport
  | .ended machine => ⟨.returned machine.outbox, machine.finish⟩
  | .failed machine instruction (.fault cause) =>
      ⟨.faulted (machine.faultAt instruction cause), machine⟩
  | .failed machine _ .noTile => ⟨.noTile, machine⟩
  | .going machine => ⟨pause machine, machine⟩

/-- The report of a limit writes its digits, so that they must not be too many. -/
def atLimit (machine : Machine) (limit : Int) : RunOutcome :=
  if Numeral.isWritable limit then .limitReached ⟨limit, machine.position, machine.outbox⟩
  else .unwritableLimit

/-- A limited run walks the steps that the limit leaves. -/
def runUpTo (machine : Machine) (limit : Int) : RunReport :=
  report (fun paused => paused.atLimit limit) (machine.walk (limit - machine.steps).toNat)

/-- A run without a limit is watched for as many steps as the observer has patience. -/
def runFreely (machine : Machine) (patience : Nat) : RunReport :=
  report (fun _ => .unfinished) (machine.walk patience)

/-- A machine that stopped does not run again. -/
def run (machine : Machine) (limit : Option Int) (patience : Nat) : RunReport :=
  match machine.stop with
  | some _ => ⟨.alreadyStopped, machine⟩
  | none =>
      match limit with
      | some limit => machine.runUpTo limit
      | none => machine.runFreely patience

end Machine

end OfficeMachine
