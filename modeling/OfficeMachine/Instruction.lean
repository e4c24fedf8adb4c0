/-
This file defines the instructions of the worker. An instruction names a tile, directly or through
the number on another tile, or it names the instruction to jump to.
-/

namespace OfficeMachine

inductive Opcode where
  | inbox
  | outbox
  | copyFrom
  | copyTo
  | add
  | subtract
  | bumpUp
  | bumpDown
  | jump
  | jumpIfZero
  | jumpIfNegative
  deriving DecidableEq

/-- Scripts write each opcode as one word. -/
def Opcode.word : Opcode → String
  | .inbox => "INBOX"
  | .outbox => "OUTBOX"
  | .copyFrom => "COPYFROM"
  | .copyTo => "COPYTO"
  | .add => "ADD"
  | .subtract => "SUB"
  | .bumpUp => "BUMPUP"
  | .bumpDown => "BUMPDN"
  | .jump => "JUMP"
  | .jumpIfZero => "JUMPZ"
  | .jumpIfNegative => "JUMPN"

def Opcode.all : List Opcode :=
  [.inbox, .outbox, .copyFrom, .copyTo, .add, .subtract, .bumpUp, .bumpDown,
    .jump, .jumpIfZero, .jumpIfNegative]

def Opcode.ofWord? (word : String) : Option Opcode :=
  Opcode.all.find? fun opcode => opcode.word = word

/-- The word of an opcode belongs to no other opcode. -/
@[simp] theorem Opcode.ofWord?_word (opcode : Opcode) : ofWord? opcode.word = some opcode := by
  cases opcode <;> decide

theorem Opcode.word_of_ofWord? {word : String} {opcode : Opcode}
    (found : ofWord? word = some opcode) : opcode.word = word := by
  simpa using List.find?_some found

/-- An opcode takes no operand, a tile or a label. -/
inductive OperandKind where
  | nothing
  | tile
  | label
  deriving DecidableEq

def Opcode.operand : Opcode → OperandKind
  | .inbox | .outbox => .nothing
  | .copyFrom | .copyTo | .add | .subtract | .bumpUp | .bumpDown => .tile
  | .jump | .jumpIfZero | .jumpIfNegative => .label

/-- An indirect address goes through the number on the tile that it names. -/
structure Address where
  index : Int
  indirect : Bool
  deriving DecidableEq

def Address.text (address : Address) : String :=
  if address.indirect then s!"[{address.index}]" else toString address.index

/-- An instruction that was put together by hand may carry operands that its opcode does not use,
or lack one that it does. The line tells where a script has it and is zero if there is none. -/
structure Instruction where
  opcode : Opcode
  address : Option Address := none
  target : Option Nat := none
  line : Int := 0
  deriving DecidableEq

/-- An address hides the target in the text of an instruction. -/
def Instruction.text (instruction : Instruction) : String :=
  match instruction.address, instruction.target with
  | some address, _ => s!"{instruction.opcode.word} {address.text}"
  | none, some target => s!"{instruction.opcode.word} @{target}"
  | none, none => instruction.opcode.word

/-- An instruction without its line tells only what the worker does. -/
def Instruction.unplaced (instruction : Instruction) : Instruction := { instruction with line := 0 }

end OfficeMachine
