/-
This file reads the words of one line as a statement. A statement declares a label or gives an
instruction whose jump target is still a name.
-/

import OfficeMachine.Instruction
import OfficeMachine.Numeral.Digits

namespace OfficeMachine.Script

inductive Operand where
  | nothing
  | tile (address : Address)
  | label (name : String)
  deriving DecidableEq

inductive Statement where
  | label (name : String)
  | act (opcode : Opcode) (operand : Operand)
  deriving DecidableEq

/-- The kind of a complaint is the class of mistakes that it belongs to. -/
inductive ComplaintKind where
  | unknownMnemonic
  | badOperand
  | unknownLabel
  | duplicateLabel
  | malformedColon
  deriving DecidableEq

def ComplaintKind.text : ComplaintKind → String
  | .unknownMnemonic => "unknown mnemonic"
  | .badOperand => "bad operand"
  | .unknownLabel => "unknown label"
  | .duplicateLabel => "duplicate label"
  | .malformedColon => "malformed colon"

/-- A complaint tells what is wrong with a line. -/
inductive Complaint where
  | strayColon
  | declaredBefore (name : String) (line : Nat)
  | noOpcode (word : String)
  | takesNothing (opcode : Opcode)
  | takesOne (opcode : Opcode) (count : Nat)
  | noTile (operand : String)
  | noLabelName (opcode : Opcode) (operand : String)
  | undeclared (name : String)
  deriving DecidableEq

def Complaint.kind : Complaint → ComplaintKind
  | .strayColon => .malformedColon
  | .declaredBefore _ _ => .duplicateLabel
  | .noOpcode _ => .unknownMnemonic
  | .takesNothing _ | .takesOne _ _ | .noTile _ | .noLabelName _ _ => .badOperand
  | .undeclared _ => .unknownLabel

def Complaint.detail : Complaint → String
  | .strayColon => "':' is only allowed in a label declaration like 'a:'"
  | .declaredBefore name line => s!"label '{name}' already declared on line {line}"
  | .noOpcode word => s!"'{word}'"
  | .takesNothing opcode => s!"{opcode.word} takes no operand"
  | .takesOne opcode count => s!"{opcode.word} takes exactly one operand, got {count}"
  | .noTile operand => s!"expected a tile index like 3 or [3], got '{operand}'"
  | .noLabelName opcode operand => s!"{opcode.word} needs a label name, got '{operand}'"
  | .undeclared name => s!"no label '{name}' declared"

/-- A line is refused for a complaint, or because its tile index has too many digits. -/
inductive Refusal where
  | complaint (reason : Complaint)
  | overlong (failure : Numeral.TooLong)
  deriving DecidableEq

/-- Label names consist of ASCII letters, digits and underscores. -/
def isNameCharacter (character : Char) : Bool := character.isAlphanum || character = '_'

def isName (text : List Char) : Bool := !text.isEmpty && text.all isNameCharacter

/-- A declaration is a name with a colon behind it. -/
def declaredName? (token : List Char) : Option (List Char) :=
  if token.getLast? = some ':' ∧ isName token.dropLast = true then some token.dropLast else none

/-- A bracketed tile index is indirect. -/
def unbracket? : List Char → Option (List Char)
  | '[' :: rest => if rest.getLast? = some ']' then some rest.dropLast else none
  | _ => none

def readIndex (indirect : Bool) (digits : List Char) : Except Refusal Operand :=
  match Numeral.read digits with
  | .ok index => .ok (.tile ⟨index, indirect⟩)
  | .error failure => .error (.overlong failure)

/-- A tile operand is a run of digits, with or without brackets around it. -/
def readTile (operand : String) : Except Refusal Operand :=
  if Numeral.isDigits operand.toList then readIndex false operand.toList
  else
    match unbracket? operand.toList with
    | some digits =>
        if Numeral.isDigits digits then readIndex true digits
        else .error (.complaint (.noTile operand))
    | none => .error (.complaint (.noTile operand))

def readLabel (opcode : Opcode) (operand : String) : Except Refusal Operand :=
  if isName operand.toList then .ok (.label operand)
  else .error (.complaint (.noLabelName opcode operand))

def readOperand (opcode : Opcode) (operands : List String) : Except Refusal Operand :=
  match opcode.operand, operands with
  | .nothing, [] => .ok .nothing
  | .nothing, _ => .error (.complaint (.takesNothing opcode))
  | .tile, [operand] => readTile operand
  | .label, [operand] => readLabel opcode operand
  | _, _ => .error (.complaint (.takesOne opcode operands.length))

/-- A colon anywhere on a line makes it a declaration or a mistake. -/
def readDeclaration (tokens : List String) : Except Refusal Statement :=
  match tokens with
  | [token] =>
      match declaredName? token.toList with
      | some name => .ok (.label (String.ofList name))
      | none => .error (.complaint .strayColon)
  | _ => .error (.complaint .strayColon)

/-- The words of a line determine its statement. A line without words has no opcode. -/
def Statement.read (tokens : List String) : Except Refusal Statement :=
  if tokens.any fun token => token.toList.contains ':' then readDeclaration tokens
  else
    match tokens with
    | [] => .error (.complaint (.noOpcode ""))
    | word :: operands =>
        match Opcode.ofWord? word with
        | none => .error (.complaint (.noOpcode word))
        | some opcode => (readOperand opcode operands).map (.act opcode)

end OfficeMachine.Script
