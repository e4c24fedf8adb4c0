/-
This file puts one script below another. The lower script keeps its statements, so that its jumps and
its labels go as much further as the upper script has instructions.
-/

import OfficeMachine.Proofs.Script.Acceptance

namespace OfficeMachine

/-- An instruction moves down by a number of instructions and a number of lines. -/
def Instruction.moved (instruction : Instruction) (instructions lines : Nat) : Instruction :=
  { instruction with
    target := instruction.target.map (· + instructions)
    line := instruction.line + lines }

namespace Script

def Line.moved (line : Line) (lines : Nat) : Line := { line with number := line.number + lines }

/-- An open script has no line that begins with the word of drawings. -/
def IsOpen (source : String) : Prop :=
  ∀ line ∈ physicalLines source, line.tokens.head? ≠ some "DEFINE"

instance (source : String) : Decidable (IsOpen source) :=
  inferInstanceAs (Decidable (∀ _ ∈ _, _))

section Lines

variable {first second : String}

/-- The lower script begins on a line of its own. -/
theorem physicalLines_below (first second : String) :
    physicalLines (first ++ "\n" ++ second) = physicalLines (first ++ "\n") ++
      (physicalLines second).map (·.moved (physicalLines (first ++ "\n")).length) := by
  have split := Text.lines_feed_append first.toList second.toList
  have shifted (texts : List (List Char)) (count : Nat) :
      texts.zipIdx (1 + count) = (texts.zipIdx 1).map (Prod.map id (· + count)) := by
    rw [Nat.add_comm, List.map_snd_add_zipIdx_eq_zipIdx]
  simp only [physicalLines, String.toList_append, List.length_map, List.length_zipIdx]
  rw [show "\n".toList = ['\n'] from rfl, split, List.zipIdx_append, List.map_append, shifted,
    List.map_map, List.map_map]
  rfl

/-- A line feed at the end changes no line but may open a blank one. -/
theorem physicalLines_append_feed (source : String) :
    ∃ blank, physicalLines (source ++ "\n") = physicalLines source ++ blank ∧
      ∀ line ∈ blank, line.tokens = [] := by
  simp only [physicalLines, String.toList_append, show "\n".toList = ['\n'] from rfl]
  rcases Text.lines_append_feed source.toList with same | longer
  · exact ⟨[], by rw [same, List.append_nil], List.forall_mem_nil _⟩
  · refine ⟨[Line.ofRaw (1 + (Text.lines source.toList).length) []], ?_, ?_⟩
    · rw [longer, List.zipIdx_append, List.map_append]
      rfl
    · exact List.forall_mem_singleton.mpr rfl

theorem takeWhile_of_isOpen (isOpen : IsOpen first) :
    ((physicalLines first).takeWhile fun line => !line.isClosing) = physicalLines first := by
  rw [List.takeWhile_eq_self_iff]
  intro line member
  simp [Line.isClosing, isOpen line member]

/-- The lines of the lower script are retained below those of the upper one. -/
theorem retainedLines_below (isOpen : IsOpen first) (second : String) :
    retainedLines (first ++ "\n" ++ second) = retainedLines first ++
      (retainedLines second).map (·.moved (physicalLines (first ++ "\n")).length) := by
  obtain ⟨blank, whole, silent⟩ := physicalLines_append_feed first
  have isOpenToo : ∀ line ∈ physicalLines first ++ blank, (!line.isClosing) = true := by
    intro line member
    rcases List.mem_append.mp member with upper | last
    · simp [Line.isClosing, isOpen line upper]
    · simp [Line.isClosing, silent line last]
  have idle : (blank.filter fun line => !line.isIdle) = [] := by
    rw [List.filter_eq_nil_iff]
    intro line member
    simp [Line.isIdle, silent line member]
  simp only [retainedLines, physicalLines_below, takeWhile_of_isOpen isOpen]
  rw [whole, List.takeWhile_append_of_pos isOpenToo, List.takeWhile_map, List.filter_append,
    List.filter_append, idle, List.append_nil, List.filter_map]
  rfl

end Lines

/-- The meaning of a line does not depend on its number. -/
theorem Line.Means.moved {line : Line} {statement : Statement} (meaning : line.Means statement)
    (lines : Nat) : (line.moved lines).Means statement := by
  cases meaning with
  | declaration name wellNamed shape => exact .declaration name wellNamed shape
  | bare opcode takes shape => exact .bare opcode takes shape
  | direct opcode takes digits isNumber short shape =>
      exact .direct opcode takes digits isNumber short shape
  | indirect opcode takes digits isNumber short shape =>
      exact .indirect opcode takes digits isNumber short shape
  | jump opcode takes name wellNamed shape => exact .jump opcode takes name wellNamed shape

theorem marksFrom_append (count : Nat) (upper lower : List Statement) :
    marksFrom count (upper ++ lower) =
      marksFrom count upper ++ marksFrom (count + upper.countP Statement.isAct) lower := by
  induction upper generalizing count with
  | nil => rfl
  | cons statement rest inductionHypothesis =>
      cases statement with
      | label name =>
          rw [List.countP_cons_of_neg (by simp [Statement.isAct])]
          simp [marksFrom, inductionHypothesis]
      | act opcode operand =>
          rw [List.countP_cons_of_pos rfl, ← Nat.add_assoc, Nat.add_right_comm]
          simp [marksFrom, inductionHypothesis]

/-- All marks move with the first instruction. -/
theorem marksFrom_add (count more : Nat) (statements : List Statement) :
    marksFrom (count + more) statements =
      (marksFrom count statements).map fun mark => (mark.1, mark.2 + more) := by
  induction statements generalizing count with
  | nil => rfl
  | cons statement rest inductionHypothesis =>
      cases statement with
      | label name => simp [marksFrom, inductionHypothesis]
      | act opcode operand =>
          have next := inductionHypothesis (count + 1)
          rw [Nat.add_right_comm] at next
          exact next

/-- Statements remain consistent below others that declare none of their names. -/
theorem Consistent.append {upper lower : List Statement} (consistent : Consistent upper)
    (consistentToo : Consistent lower)
    (disjoint : ∀ name ∈ declaredNames upper, name ∉ declaredNames lower) :
    Consistent (upper ++ lower) := by
  have names : declaredNames (upper ++ lower) = declaredNames upper ++ declaredNames lower :=
    List.filterMap_append ..
  refine ⟨?_, ?_⟩
  · rw [names, List.nodup_append]
    refine ⟨consistent.distinct, consistentToo.distinct, ?_⟩
    rintro name member other memberToo rfl
    exact disjoint name member memberToo
  · intro opcode name member
    rw [names, List.mem_append]
    rcases List.mem_append.mp member with above | below
    · exact Or.inl (consistent.declared opcode name above)
    · exact Or.inr (consistentToo.declared opcode name below)

theorem lookup_map_add (marks : List (String × Nat)) (more : Nat) (name : String) :
    (marks.map fun mark => (mark.1, mark.2 + more)).lookup name =
      (marks.lookup name).map (· + more) := by
  induction marks with
  | nil => rfl
  | cons mark rest inductionHypothesis =>
      obtain ⟨key, index⟩ := mark
      cases same : name == key <;> simp [List.lookup_cons, same, inductionHypothesis]

section Join

variable {upper lower : List Statement}

theorem marksFrom_join (upper lower : List Statement) :
    marksFrom 0 (upper ++ lower) = marksFrom 0 upper ++
      (marksFrom 0 lower).map fun mark => (mark.1, mark.2 + upper.countP Statement.isAct) := by
  rw [marksFrom_append, marksFrom_add]

/-- The statements of the upper script give the same instructions as without the lower one. -/
theorem instruction?_upper (consistent : Consistent upper) (lower : List Statement) (line : Line)
    {statement : Statement} (member : statement ∈ upper) :
    statement.instruction? (marksFrom 0 (upper ++ lower)) line =
      statement.instruction? (marksFrom 0 upper) line := by
  cases statement with
  | label name => rfl
  | act opcode operand =>
      cases operand with
      | nothing => rfl
      | tile address => rfl
      | label name =>
          obtain ⟨index, found, -⟩ :=
            exists_lookup_marksFrom 0 (consistent.declared opcode name member)
          simp [Statement.instruction?, decode, marksFrom_join, List.lookup_append, found]

/-- The statements of the lower script give their instructions further down. -/
theorem instruction?_lower (consistent : Consistent lower)
    (disjoint : ∀ name ∈ declaredNames upper, name ∉ declaredNames lower) (line : Line)
    (lines : Nat) {statement : Statement} (member : statement ∈ lower) :
    statement.instruction? (marksFrom 0 (upper ++ lower)) (line.moved lines) =
      (statement.instruction? (marksFrom 0 lower) line).map
        (·.moved (upper.countP Statement.isAct) lines) := by
  cases statement with
  | label name => rfl
  | act opcode operand =>
      cases operand with
      | nothing => rfl
      | tile address => rfl
      | label name =>
          have unknown : (marksFrom 0 upper).lookup name = none := by
            rw [List.lookup_eq_none_iff]
            intro mark marked
            rw [bne_iff_ne]
            rintro rfl
            have declared : mark.1 ∈ declaredNames upper := by
              rw [← map_fst_marksFrom 0]
              exact List.mem_map_of_mem marked
            exact disjoint mark.1 declared (consistent.declared opcode mark.1 member)
          simp [Statement.instruction?, decode, marksFrom_join, List.lookup_append, unknown,
            lookup_map_add, Instruction.moved, Line.moved]

/-- A program that renders one script below another one has the instructions and the labels of both,
those of the lower one moved down. -/
theorem Renders.join {program first second : Program} {upperLines lowerLines : List Line}
    {lines : Nat} (meanings : List.Forall₂ Line.Means upperLines upper)
    (renders : Renders first upperLines upper) (rendersToo : Renders second lowerLines lower)
    (consistent : Consistent upper) (consistentToo : Consistent lower)
    (disjoint : ∀ name ∈ declaredNames upper, name ∉ declaredNames lower)
    (joint : Renders program (upperLines ++ lowerLines.map (·.moved lines)) (upper ++ lower)) :
    program.instructions.toList = first.instructions.toList ++
        second.instructions.toList.map (·.moved first.size lines) ∧
      program.labels.entries = first.labels.entries ++
        second.labels.entries.map fun label => (label.1, label.2 + (first.size : Int)) := by
  have size := renders.size meanings
  constructor
  · rw [joint.instructions, renders.instructions, rendersToo.instructions,
      List.zip_append meanings.length_eq, List.filterMap_append, List.zip_map_left,
      List.filterMap_map, List.map_filterMap, size]
    congr 1
    · apply List.filterMap_congr
      intro pair member
      exact instruction?_upper consistent lower pair.1 (List.of_mem_zip member).2
    · apply List.filterMap_congr
      intro pair member
      exact instruction?_lower consistentToo disjoint pair.1 lines (List.of_mem_zip member).2
  · rw [joint.labels, renders.labels, rendersToo.labels, marksFrom_join, List.map_append,
      List.map_map, List.map_map, size]
    congr 1

end Join

/-- Reading is compositional. An open script and another script that declares none of its labels are
read together, one below the other. The instructions of the lower one follow with their targets and
lines moved down, its labels follow in the same way, and a label at the end of the upper script marks
the first instruction of the lower one. -/
theorem read_one_below_other {first second : String} {upper lower : Program}
    (accepted : read first = .ok upper) (acceptedToo : read second = .ok lower)
    (isOpen : IsOpen first) (disjoint : ∀ name ∈ upper.labels.keys, name ∉ lower.labels.keys) :
    ∃ program, read (first ++ "\n" ++ second) = .ok program ∧
      program.instructions.toList = upper.instructions.toList ++
        lower.instructions.toList.map
          (·.moved upper.size (physicalLines (first ++ "\n")).length) ∧
      program.labels.entries = upper.labels.entries ++
        lower.labels.entries.map (fun label => (label.1, label.2 + (upper.size : Int))) ∧
      ∀ name, (name, (upper.size : Int)) ∈ upper.labels.entries →
        (name, (upper.size : Int)) ∈ program.labels.entries ∧
          program.instructions[upper.size]? = lower.instructions[0]?.map
            (·.moved upper.size (physicalLines (first ++ "\n")).length) := by
  obtain ⟨statements, meanings, consistent, renders⟩ := read_eq_ok_iff.mp accepted
  obtain ⟨others, meaningsToo, consistentToo, rendersToo⟩ := read_eq_ok_iff.mp acceptedToo
  have separate : ∀ name ∈ declaredNames statements, name ∉ declaredNames others := by
    intro name member
    rw [← renders.keys_labels] at member
    rw [← rendersToo.keys_labels]
    exact disjoint name member
  have joint := consistent.append consistentToo separate
  obtain ⟨program, rendersBoth⟩ := exists_renders (retainedLines (first ++ "\n" ++ second)) joint
  have lines := retainedLines_below isOpen second
  have meaningsBelow : List.Forall₂ Line.Means
      ((retainedLines second).map (·.moved (physicalLines (first ++ "\n")).length)) others := by
    rw [List.forall₂_map_left_iff]
    exact meaningsToo.imp fun _ _ meaning => meaning.moved _
  have read : read (first ++ "\n" ++ second) = .ok program := by
    rw [read_eq_ok_iff, lines]
    exact ⟨statements ++ others, List.rel_append meanings meaningsBelow, joint, lines ▸ rendersBoth⟩
  rw [lines] at rendersBoth
  obtain ⟨instructions, labels⟩ :=
    Renders.join meanings renders rendersToo consistent consistentToo separate rendersBoth
  refine ⟨program, read, instructions, labels, ?_⟩
  intro name last
  refine ⟨by rw [labels]; exact List.mem_append_left _ last, ?_⟩
  rw [← Array.getElem?_toList, instructions, Program.size, ← Array.length_toList,
    List.getElem?_append_right (Nat.le_refl _), Nat.sub_self, List.getElem?_map,
    Array.getElem?_toList]

/-- The carriage return at the end of this script and the line feed behind it end one line. -/
def upperScript : String := "    INBOX\n    JUMPZ rest\nrest:\r"

def upperProgram : Program where
  instructions := #[
    { opcode := .inbox, line := 1 },
    { opcode := .jumpIfZero, target := some 2, line := 2 }]
  labels := ⟨[("rest", 2)], by decide⟩

def lowerScript : String := "again:\n    OUTBOX\n    JUMP again"

def lowerProgram : Program where
  instructions := #[
    { opcode := .outbox, line := 2 },
    { opcode := .jump, target := some 0, line := 3 }]
  labels := ⟨[("again", 0)], by decide⟩

theorem read_one_below_other_rest :
    ∃ program, read (upperScript ++ "\n" ++ lowerScript) = .ok program ∧
      program.instructions.toList =
        [{ opcode := .inbox, line := 1 }, { opcode := .jumpIfZero, target := some 2, line := 2 },
          { opcode := .outbox, line := 5 }, { opcode := .jump, target := some 2, line := 6 }] ∧
      program.labels.entries = [("rest", 2), ("again", 2)] := by
  have accepted : read upperScript = .ok upperProgram := by decide +kernel
  have acceptedToo : read lowerScript = .ok lowerProgram := by decide +kernel
  obtain ⟨program, read, instructions, labels, -⟩ :=
    read_one_below_other accepted acceptedToo (by decide +kernel) (by decide +kernel)
  exact ⟨program, read, instructions.trans (by decide +kernel), labels⟩

end Script

end OfficeMachine
