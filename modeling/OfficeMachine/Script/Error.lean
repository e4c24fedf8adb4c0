/-
This file reports what is wrong with a script and where.
-/

import OfficeMachine.Script.Line
import OfficeMachine.Script.Statement

namespace OfficeMachine.Script

/-- An error has the line number zero if it belongs to no line. -/
structure Error where
  kind : ComplaintKind
  detail : String
  line : Int
  text : String
  deriving DecidableEq

/-- The message starts with the line number and ends with the text of the line. -/
def Error.message (error : Error) : String :=
  let place := if error.line = 0 then "" else s!"Line {error.line}: "
  let quotation := if error.text = "" then "" else " (`" ++ error.text ++ "`)"
  place ++ error.kind.text ++ ": " ++ error.detail ++ quotation

/-- Reading a script fails with an error, or because a tile index has too many digits. -/
inductive Failure where
  | rejected (error : Error)
  | overlong (failure : Numeral.TooLong)
  deriving DecidableEq

def Complaint.on (complaint : Complaint) (line : Line) : Failure :=
  .rejected ⟨complaint.kind, complaint.detail, line.number, line.text⟩

def Refusal.on (refusal : Refusal) (line : Line) : Failure :=
  match refusal with
  | .complaint reason => reason.on line
  | .overlong failure => .overlong failure

end OfficeMachine.Script
