/-
This file writes a program as a script. Each label stands in front of its instruction, and a jump
target without a label gets a generated one.
-/

import OfficeMachine.Program

namespace OfficeMachine

/-- A landmark is a label name with the index that it marks. -/
abbrev Landmark := String × Int

/-- Landmarks are sorted by index and then by name. -/
def Landmark.precedes (first second : Landmark) : Bool :=
  first.2 < second.2 || (first.2 = second.2 && first.1 ≤ second.1)

def Program.declaredLandmarks (program : Program) : List Landmark :=
  program.labels.entries.mergeSort Landmark.precedes

def generatedName (number : Nat) : String := s!"L{number}"

/-- The fresh number is the first one from the start whose generated name is not taken. One of
the candidates is free because there are more candidates than names. -/
def freshNumber (taken : List String) (start : Nat) : Nat :=
  let candidates := (List.range (taken.length + 1)).map (start + ·)
  (candidates.find? fun number => generatedName number ∉ taken).getD start

/-- A naming holds the number to try next and the landmarks so far. -/
structure Naming where
  next : Nat
  landmarks : List Landmark

/-- A jump target that no landmark marks gets a generated name. -/
def Naming.visit (naming : Naming) (instruction : Instruction) : Naming :=
  match instruction.target with
  | none => naming
  | some target =>
      if naming.landmarks.any fun landmark => landmark.2 = target then naming
      else
        let number := freshNumber (naming.landmarks.map Prod.fst) naming.next
        ⟨number, naming.landmarks ++ [(generatedName number, (target : Int))]⟩

def Program.landmarks (program : Program) : List Landmark :=
  (program.instructions.foldl Naming.visit ⟨0, program.declaredLandmarks⟩).landmarks

def namesAt (landmarks : List Landmark) (index : Int) : List String :=
  (landmarks.filter fun landmark => landmark.2 = index).map Prod.fst

/-- An operand stands in a column of its own. -/
def operandLine (opcode : Opcode) (operand : String) : String :=
  "    " ++ opcode.word ++ String.ofList (List.replicate (8 - opcode.word.length) ' ') ++
    " " ++ operand

/-- A jump is written with the first name of its target. -/
def instructionLine (landmarks : List Landmark) (instruction : Instruction) : String :=
  match instruction.address, instruction.target with
  | some address, _ => operandLine instruction.opcode address.text
  | none, some target =>
      operandLine instruction.opcode ((namesAt landmarks target).head?.getD "")
  | none, none => "    " ++ instruction.opcode.word

def labelLines (landmarks : List Landmark) (index : Nat) : List String :=
  (namesAt landmarks index).map (· ++ ":")

/-- The body has the labels of an index before its instruction and the labels of the end last. -/
def listingBody (landmarks : List Landmark) : Nat → List Instruction → List String
  | index, [] => labelLines landmarks index
  | index, instruction :: rest =>
      labelLines landmarks index ++
        instructionLine landmarks instruction :: listingBody landmarks (index + 1) rest

def Program.listingLines (program : Program) : List String :=
  "-- HUMAN RESOURCE MACHINE PROGRAM --" :: "" ::
    listingBody program.landmarks 0 program.instructions.toList

/-- Every line of the listing is terminated. -/
def Program.listing (program : Program) : String :=
  String.join (program.listingLines.map (· ++ "\n"))

end OfficeMachine
