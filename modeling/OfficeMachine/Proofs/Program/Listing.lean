/-
This file shows what stands on the lines of a listing. The body of a listing writes one statement on
each row, and the reader retains exactly these rows.
-/

import OfficeMachine.Proofs.Program.Naming
import OfficeMachine.Proofs.Program.Written
import OfficeMachine.Proofs.Script.Retention

namespace OfficeMachine

open Script

/-- An instruction is written with the first name of its target. -/
def Instruction.statement (landmarks : List Landmark) (instruction : Instruction) : Statement :=
  .act instruction.opcode (match instruction.address, instruction.target with
    | some address, _ => .tile address
    | none, some target => .label ((namesAt landmarks target).head?.getD "")
    | none, none => .nothing)

/-- The body of a listing writes these statements. -/
def listingStatements (landmarks : List Landmark) : Nat → List Instruction → List Statement
  | index, [] => (namesAt landmarks index).map .label
  | index, instruction :: rest =>
      (namesAt landmarks index).map .label ++
        instruction.statement landmarks :: listingStatements landmarks (index + 1) rest

theorem mem_namesAt {landmarks : List Landmark} {index : Int} {name : String} :
    name ∈ namesAt landmarks index ↔ (name, index) ∈ landmarks := by
  simp [namesAt]

/-- The first name at a marked index is one of its names. -/
theorem head_namesAt {landmarks : List Landmark} {index : Int}
    (marked : index ∈ landmarks.map Prod.snd) :
    ((namesAt landmarks index).head?.getD "", index) ∈ landmarks := by
  obtain ⟨⟨name, other⟩, member, same⟩ := List.mem_map.mp marked
  rw [show other = index from same] at member
  have named : namesAt landmarks index ≠ [] := List.ne_nil_of_mem (mem_namesAt.mpr member)
  rw [List.head?_eq_some_head named, Option.getD_some, ← mem_namesAt]
  exact List.head_mem named

/-- Landmarks serve instructions if their names can be written and all targets are marked. -/
structure Serves (landmarks : List Landmark) (instructions : List Instruction) : Prop where
  named : ∀ landmark ∈ landmarks, isName landmark.1.toList = true
  marked : ∀ instruction ∈ instructions, ∀ target : Nat, instruction.target = some target →
    (target : Int) ∈ landmarks.map Prod.snd

theorem Serves.isName {landmarks : List Landmark} {instructions : List Instruction}
    (serves : Serves landmarks instructions) {name : String} {index : Int}
    (member : (name, index) ∈ landmarks) : Script.isName name.toList = true :=
  serves.named (name, index) member

theorem writes_instruction {landmarks : List Landmark} {instruction : Instruction} {size : Nat}
    (serves : Serves landmarks [instruction]) (suits : instruction.Suits size) :
    Writes (instructionLine landmarks instruction) (instruction.statement landmarks) := by
  unfold instructionLine Instruction.statement
  cases kind : instruction.opcode.operand with
  | nothing =>
      obtain ⟨address, target⟩ := suits.of_nothing kind
      rw [address, target]
      exact writes_bare kind
  | tile =>
      obtain ⟨address, given, target, start, writable⟩ := suits.of_tile kind
      rw [given, target]
      exact writes_tile kind start writable
  | label =>
      obtain ⟨address, target, jumps, -⟩ := suits.of_label kind
      rw [address, jumps]
      have member := head_namesAt (serves.marked instruction (by simp) target jumps)
      exact writes_jump kind (serves.isName member)

theorem writes_labels {landmarks : List Landmark} {instructions : List Instruction}
    (serves : Serves landmarks instructions) (index : Nat) :
    List.Forall₂ Writes (labelLines landmarks index) ((namesAt landmarks index).map .label) := by
  rw [labelLines, List.forall₂_map_left_iff, List.forall₂_map_right_iff, List.forall₂_same]
  intro name member
  exact writes_label (serves.isName (mem_namesAt.mp member))

/-- The body of a listing writes its statements row by row. -/
theorem writes_listingBody {landmarks : List Landmark} {instructions : List Instruction}
    {size : Nat} (serves : Serves landmarks instructions)
    (suits : ∀ instruction ∈ instructions, instruction.Suits size) (index : Nat) :
    List.Forall₂ Writes (listingBody landmarks index instructions)
      (listingStatements landmarks index instructions) := by
  induction instructions generalizing index with
  | nil => exact writes_labels serves index
  | cons instruction rest inductionHypothesis =>
      have first : Serves landmarks [instruction] :=
        ⟨serves.named, fun other member => serves.marked other (by simp_all)⟩
      have others : Serves landmarks rest :=
        ⟨serves.named, fun other member => serves.marked other (by simp [member])⟩
      refine List.rel_append (writes_labels serves index) (.cons ?_ ?_)
      · exact writes_instruction first (suits instruction (by simp))
      · exact inductionHypothesis others (fun other member => suits other (by simp [member])) _

/-- The rows of a text are numbered from a start. -/
def numberedLines (start : Nat) (rows : List String) : List Line :=
  ((rows.map String.toList).zipIdx start).map fun (raw, number) => Line.ofRaw number raw

theorem numberedLines_cons (start : Nat) (row : String) (rows : List String) :
    numberedLines start (row :: rows) =
      Line.ofRaw start row.toList :: numberedLines (start + 1) rows := rfl

theorem means_numberedLines {rows : List String} {statements : List Statement}
    (written : List.Forall₂ Writes rows statements) (start : Nat) :
    List.Forall₂ Line.Means (numberedLines start rows) statements := by
  induction written generalizing start with
  | nil => exact .nil
  | cons first _ inductionHypothesis =>
      exact .cons (first.means start) (inductionHypothesis (start + 1))

theorem physicalLines_listing (program : Program)
    (rows : ∀ row ∈ program.listingLines, Text.IsRow row.toList) :
    physicalLines program.listing = numberedLines 1 program.listingLines := by
  have joined : program.listing.toList =
      (program.listingLines.map String.toList).flatMap (· ++ ['\n']) := by
    simp [Program.listing, String.toList_join, List.flatMap_map]
  have clean : ∀ raw ∈ program.listingLines.map String.toList, Text.IsRow raw := by
    intro raw member
    obtain ⟨row, listed, same⟩ := List.mem_map.mp member
    rw [← same]
    exact rows row listed
  rw [physicalLines, joined, Text.lines_terminated clean]
  rfl

theorem isRow_of_mem_writes {rows : List String} {statements : List Statement}
    (written : List.Forall₂ Writes rows statements) : ∀ row ∈ rows, Text.IsRow row.toList := by
  induction written with
  | nil => simp
  | cons first _ inductionHypothesis =>
      intro row member
      rcases List.mem_cons.mp member with here | later
      · rw [here]
        exact first.isRow
      · exact inductionHypothesis row later

theorem obeyed_numberedLines {rows : List String} {statements : List Statement}
    (written : List.Forall₂ Writes rows statements) (start : Nat) :
    ∀ line ∈ numberedLines start rows, line.isClosing = false ∧ line.isIdle = false := by
  induction written generalizing start with
  | nil => simp [numberedLines]
  | cons first _ inductionHypothesis =>
      rw [numberedLines_cons]
      intro line member
      rcases List.mem_cons.mp member with here | later
      · rw [here]
        exact (first.means start).obeyed (Line.isCut_ofRaw start _)
      · exact inductionHypothesis (start + 1) line later

theorem isRow_of_mem_listingLines {program : Program} {statements : List Statement}
    (written : List.Forall₂ Writes
      (listingBody program.landmarks 0 program.instructions.toList) statements) :
    ∀ row ∈ program.listingLines, Text.IsRow row.toList := by
  intro row member
  rcases List.mem_cons.mp member with header | rest
  · rw [header]
    decide
  · rcases List.mem_cons.mp rest with blank | body
    · rw [blank]
      decide
    · exact isRow_of_mem_writes written row body

/-- Lines that are obeyed are all retained, and idle lines in front of them are not. -/
theorem retained_append {idle obeyed : List Line}
    (areIdle : ∀ line ∈ idle, line.isClosing = false ∧ line.isIdle = true)
    (areObeyed : ∀ line ∈ obeyed, line.isClosing = false ∧ line.isIdle = false) :
    ((idle ++ obeyed).takeWhile fun line => !line.isClosing).filter (fun line => !line.isIdle) =
      obeyed := by
  have keptOpen : ((idle ++ obeyed).takeWhile fun line => !line.isClosing) = idle ++ obeyed := by
    rw [List.takeWhile_eq_self_iff]
    intro line member
    rcases List.mem_append.mp member with front | back
    · rw [(areIdle line front).1]
      rfl
    · rw [(areObeyed line back).1]
      rfl
  have none : (idle.filter fun line => !line.isIdle) = [] := by
    rw [List.filter_eq_nil_iff]
    intro line member
    rw [(areIdle line member).2]
    decide
  rw [keptOpen, List.filter_append, none, List.nil_append, List.filter_eq_self]
  intro line member
  rw [(areObeyed line member).2]
  rfl

/-- A listing retains exactly the rows of its body. -/
theorem retainedLines_listing {program : Program} {statements : List Statement}
    (written : List.Forall₂ Writes
      (listingBody program.landmarks 0 program.instructions.toList) statements) :
    retainedLines program.listing =
      numberedLines 3 (listingBody program.landmarks 0 program.instructions.toList) := by
  have heading : ∀ line ∈ numberedLines 1 ["-- HUMAN RESOURCE MACHINE PROGRAM --", ""],
      line.isClosing = false ∧ line.isIdle = true := by
    decide
  rw [retainedLines, physicalLines_listing program (isRow_of_mem_listingLines written)]
  exact retained_append heading (obeyed_numberedLines written 3)

end OfficeMachine
