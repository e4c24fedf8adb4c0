/-
This file reads the listing of a program back. The statements of the listing mark the labels and the
generated names, and they decode to the same instructions.
-/

import Mathlib.Data.List.Nodup
import OfficeMachine.Proofs.Program.Listing
import OfficeMachine.Proofs.Script.Acceptance

namespace OfficeMachine

open Script

/-- Marks point to natural indices, and landmarks may point anywhere. -/
def asLandmarks (marks : List (String × Nat)) : List Landmark :=
  marks.map fun mark => (mark.1, (mark.2 : Int))

theorem marksFrom_labels_append (names : List String) (count : Nat) (rest : List Statement) :
    marksFrom count (names.map .label ++ rest) =
      names.map (fun name => (name, count)) ++ marksFrom count rest := by
  induction names with
  | nil => rfl
  | cons name names inductionHypothesis => simp [marksFrom, inductionHypothesis]

theorem asLandmarks_namesAt (landmarks : List Landmark) (index : Nat) :
    asLandmarks ((namesAt landmarks index).map fun name => (name, index)) =
      landmarks.filter fun landmark => landmark.2 = (index : Int) := by
  simp only [asLandmarks, namesAt, List.map_map]
  conv_rhs =>
    rw [← List.map_id (landmarks.filter fun landmark : Landmark => landmark.2 = (index : Int))]
  apply List.map_congr_left
  rintro ⟨name, other⟩ member
  have same : other = index := by simpa using (List.mem_filter.mp member).2
  simp [same]

/-- The statements of a listing mark exactly the landmarks from the start to the end. -/
theorem marks_listingStatements (landmarks : List Landmark) (instructions : List Instruction)
    (index : Nat) :
    List.Perm (asLandmarks (marksFrom index (listingStatements landmarks index instructions)))
      (landmarks.filter fun landmark =>
        (index : Int) ≤ landmark.2 ∧ landmark.2 ≤ (index + instructions.length : Nat)) := by
  induction instructions generalizing index with
  | nil =>
      have here := marksFrom_labels_append (namesAt landmarks index) index []
      rw [List.append_nil, marksFrom, List.append_nil] at here
      rw [listingStatements, here, asLandmarks_namesAt]
      apply List.Perm.of_eq
      apply List.filter_congr
      intro landmark _
      simp only [List.length_nil, Nat.add_zero, decide_eq_decide]
      omega
  | cons instruction rest inductionHypothesis =>
      have split : marksFrom index (listingStatements landmarks index (instruction :: rest)) =
          (namesAt landmarks index).map (fun name => (name, index)) ++
            marksFrom (index + 1) (listingStatements landmarks (index + 1) rest) := by
        rw [listingStatements, marksFrom_labels_append]
        rfl
      rw [split, asLandmarks, List.map_append, ← asLandmarks, ← asLandmarks, asLandmarks_namesAt]
      -- The landmarks of the range are those of its first index and those of the others.
      refine ((inductionHypothesis (index + 1)).append_left _).trans ?_
      have parts := List.filter_append_perm (fun landmark : Landmark => landmark.2 = (index : Int))
        (landmarks.filter fun landmark => (index : Int) ≤ landmark.2 ∧
          landmark.2 ≤ (index + (instruction :: rest).length : Nat))
      rw [List.filter_filter, List.filter_filter] at parts
      refine (List.Perm.of_eq ?_).trans parts
      congr 1
      · apply List.filter_congr
        intro landmark _
        simp only [List.length_cons, ← Bool.decide_and, decide_eq_decide]
        omega
      · apply List.filter_congr
        intro landmark _
        simp only [List.length_cons, ← Bool.decide_and, ← decide_not, decide_eq_decide]
        omega

theorem lookup_of_mem {marks : List (String × Nat)} (distinct : (marks.map Prod.fst).Nodup)
    {name : String} {index : Nat} (member : (name, index) ∈ marks) :
    marks.lookup name = some index := by
  cases found : marks.lookup name with
  | none =>
      have different := List.lookup_eq_none_iff.mp found _ member
      simp at different
  | some other =>
      obtain ⟨before, after, split, -⟩ := List.lookup_eq_some_iff.mp found
      have listed : (name, other) ∈ marks := by rw [split]; simp
      have same := List.inj_on_of_nodup_map distinct listed member rfl
      rw [(Prod.mk.inj same).2]

/-- The statement of an instruction decodes to its action if all landmarks in range are marked. -/
theorem action?_statement {landmarks : List Landmark} {marks : List (String × Nat)} {size : Nat}
    (found : ∀ name (index : Nat), index ≤ size → (name, (index : Int)) ∈ landmarks →
      marks.lookup name = some index)
    {instruction : Instruction} (serves : Serves landmarks [instruction])
    (suits : instruction.Suits size) :
    (instruction.statement landmarks).action? marks = some instruction.unplaced := by
  obtain ⟨opcode, address, target, line⟩ := instruction
  cases kind : opcode.operand with
  | nothing =>
      obtain ⟨noAddress, noTarget⟩ := suits.of_nothing kind
      simp only at noAddress noTarget
      subst noAddress noTarget
      rfl
  | tile =>
      obtain ⟨tile, given, noTarget, -⟩ := suits.of_tile kind
      simp only at given noTarget
      subst given noTarget
      rfl
  | label =>
      obtain ⟨noAddress, goal, jumps, inside⟩ := suits.of_label kind
      simp only at noAddress jumps
      subst noAddress jumps
      have member := head_namesAt
        (serves.marked ⟨opcode, none, some goal, line⟩ (by simp) goal rfl)
      have resolved :=
        found ((namesAt landmarks (goal : Int)).head?.getD "") goal inside member
      simp [Instruction.statement, Statement.action?, Statement.instruction?, decode, resolved,
        Instruction.unplaced]

theorem actions_listingStatements {landmarks : List Landmark} {marks : List (String × Nat)}
    {size : Nat} (found : ∀ name (index : Nat), index ≤ size →
      (name, (index : Int)) ∈ landmarks → marks.lookup name = some index)
    {instructions : List Instruction} (serves : Serves landmarks instructions)
    (suits : ∀ instruction ∈ instructions, instruction.Suits size) (index : Nat) :
    (listingStatements landmarks index instructions).filterMap (Statement.action? marks) =
      instructions.map Instruction.unplaced := by
  have silent (names : List String) :
      (names.map Statement.label).filterMap (Statement.action? marks) = [] := by
    rw [List.filterMap_map, List.filterMap_eq_nil_iff]
    intro name _
    rfl
  induction instructions generalizing index with
  | nil => exact silent _
  | cons instruction rest inductionHypothesis =>
      have first : Serves landmarks [instruction] :=
        ⟨serves.named, fun other member => serves.marked other (by simp_all)⟩
      have others : Serves landmarks rest :=
        ⟨serves.named, fun other member => serves.marked other (by simp [member])⟩
      rw [listingStatements, List.filterMap_append, silent, List.nil_append,
        List.filterMap_cons_some (action?_statement found first (suits instruction (by simp))),
        inductionHypothesis others fun other member => suits other (by simp [member])]
      rfl

/-- A jump in the statements of a listing comes from an instruction and goes to its first name. -/
theorem exists_of_jump_mem {landmarks : List Landmark} {instructions : List Instruction}
    {index : Nat} {opcode : Opcode} {name : String}
    (member : .act opcode (.label name) ∈ listingStatements landmarks index instructions) :
    ∃ instruction ∈ instructions, ∃ target : Nat, instruction.target = some target ∧
      name = (namesAt landmarks target).head?.getD "" := by
  induction instructions generalizing index with
  | nil => simp [listingStatements] at member
  | cons instruction rest inductionHypothesis =>
      rw [listingStatements] at member
      rcases List.mem_append.mp member with label | act
      · simp at label
      rcases List.mem_cons.mp act with here | later
      · refine ⟨instruction, by simp, ?_⟩
        unfold Instruction.statement at here
        split at here
        · simp at here
        · rename_i target _ jumps
          refine ⟨target, jumps, ?_⟩
          simp only [Statement.act.injEq, Operand.label.injEq] at here
          exact here.2
        · simp at here
      · obtain ⟨other, inside, jumps⟩ := inductionHypothesis later
        exact ⟨other, by simp [inside], jumps⟩

section Listing

variable {program : Program} {generated : List Landmark}

/-- The labels of a program that stand in front of an instruction or at the end. -/
def Program.labelsInRange (program : Program) : List Landmark :=
  program.labels.entries.filter fun label => 0 ≤ label.2 ∧ label.2 ≤ (program.size : Int)

theorem landmarks_perm (split : program.landmarks = program.declaredLandmarks ++ generated) :
    List.Perm program.landmarks (program.labels.entries ++ generated) := by
  rw [split]
  exact (List.mergeSort_perm _ _).append_right generated

theorem serves_landmarks (split : program.landmarks = program.declaredLandmarks ++ generated)
    (completes : Completes program.labels.entries generated program.instructions.toList)
    (named : ∀ name ∈ program.labels.keys, isName name.toList = true) :
    Serves program.landmarks program.instructions.toList where
  named := by
    intro landmark member
    rcases List.mem_append.mp ((landmarks_perm split).mem_iff.mp member) with declared | made
    · exact named landmark.1 (List.mem_map_of_mem declared)
    · obtain ⟨number, same⟩ := completes.numbered landmark made
      rw [same]
      exact isName_generatedName number
  marked := by
    intro instruction member target jumps
    rw [((landmarks_perm split).map Prod.snd).mem_iff, List.map_append, List.mem_append]
    by_cases labelled : (target : Int) ∈ program.labels.entries.map Prod.snd
    · exact Or.inl labelled
    · right
      rw [completes.marked]
      exact ⟨labelled, instruction, member, target, jumps, rfl⟩

theorem landmarks_names_nodup
    (split : program.landmarks = program.declaredLandmarks ++ generated)
    (completes : Completes program.labels.entries generated program.instructions.toList) :
    (program.landmarks.map Prod.fst).Nodup := by
  rw [((landmarks_perm split).map Prod.fst).nodup_iff, List.map_append, List.nodup_append]
  refine ⟨program.labels.distinct, completes.distinct, ?_⟩
  intro name declared other made same
  obtain ⟨landmark, member, named⟩ := List.mem_map.mp made
  rw [same, ← named] at declared
  exact completes.fresh landmark member declared

/-- The landmarks in range are the labels in range and all generated ones. -/
theorem landmarks_in_range (split : program.landmarks = program.declaredLandmarks ++ generated)
    (completes : Completes program.labels.entries generated program.instructions.toList)
    (wellFormed : program.WellFormed) :
    List.Perm
      (program.landmarks.filter fun landmark =>
        0 ≤ landmark.2 ∧ landmark.2 ≤ (program.size : Int))
      (program.labelsInRange ++ generated) := by
  have inside : (generated.filter fun landmark =>
      0 ≤ landmark.2 ∧ landmark.2 ≤ (program.size : Int)) = generated := by
    rw [List.filter_eq_self]
    intro landmark member
    obtain ⟨-, instruction, listed, target, jumps, same⟩ :=
      (completes.marked landmark.2).mp (List.mem_map_of_mem member)
    have bound := (wellFormed instruction listed).target_le jumps
    rw [decide_eq_true_eq]
    omega
  have parts := (landmarks_perm split).filter
    fun landmark => 0 ≤ landmark.2 ∧ landmark.2 ≤ (program.size : Int)
  rwa [List.filter_append, inside] at parts

end Listing

/-- The statements of a listing are consistent and mark all names in range where they stand. -/
theorem consistent_listingStatements {landmarks : List Landmark} {instructions : List Instruction}
    (distinct : (landmarks.map Prod.fst).Nodup) (serves : Serves landmarks instructions)
    (suits : ∀ instruction ∈ instructions, instruction.Suits instructions.length) :
    Consistent (listingStatements landmarks 0 instructions) ∧
      ∀ name (index : Nat), index ≤ instructions.length → (name, (index : Int)) ∈ landmarks →
        (marksFrom 0 (listingStatements landmarks 0 instructions)).lookup name = some index := by
  have marks := marks_listingStatements landmarks instructions 0
  have names : (marksFrom 0 (listingStatements landmarks 0 instructions)).map Prod.fst =
      (asLandmarks (marksFrom 0 (listingStatements landmarks 0 instructions))).map Prod.fst := by
    rw [asLandmarks, List.map_map]
    rfl
  have separate :
      ((marksFrom 0 (listingStatements landmarks 0 instructions)).map Prod.fst).Nodup := by
    rw [names, (marks.map Prod.fst).nodup_iff]
    exact distinct.sublist (List.filter_sublist.map Prod.fst)
  have marked : ∀ name (index : Nat), index ≤ instructions.length →
      (name, (index : Int)) ∈ landmarks →
      (name, index) ∈ marksFrom 0 (listingStatements landmarks 0 instructions) := by
    intro name index inside member
    have kept : (name, (index : Int)) ∈
        asLandmarks (marksFrom 0 (listingStatements landmarks 0 instructions)) := by
      rw [marks.mem_iff, List.mem_filter, decide_eq_true_eq]
      refine ⟨member, ?_⟩
      dsimp only
      omega
    obtain ⟨⟨other, place⟩, listed, same⟩ := List.mem_map.mp kept
    obtain ⟨sameName, sameIndex⟩ := Prod.mk.inj same
    rwa [← show other = name from sameName, ← Int.ofNat_inj.mp sameIndex]
  refine ⟨⟨?_, ?_⟩, ?_⟩
  · rwa [← map_fst_marksFrom 0]
  · intro opcode name member
    obtain ⟨instruction, listed, target, jumps, same⟩ := exists_of_jump_mem member
    have first := head_namesAt (serves.marked instruction listed target jumps)
    rw [← map_fst_marksFrom 0, same]
    exact List.mem_map_of_mem (marked _ target ((suits instruction listed).target_le jumps) first)
  · intro name index inside member
    exact lookup_of_mem separate (marked name index inside member)

/-- The listing of a well-formed program is read. The result has the actions of the program and the
marks of the statements of the listing. -/
theorem exists_read_listing {program : Program} {generated : List Landmark}
    (split : program.landmarks = program.declaredLandmarks ++ generated)
    (completes : Completes program.labels.entries generated program.instructions.toList)
    (wellFormed : program.WellFormed)
    (named : ∀ name ∈ program.labels.keys, isName name.toList = true) :
    ∃ reread, read program.listing = .ok reread ∧ reread.Agrees program ∧
      reread.labels.entries =
        asLandmarks (marksFrom 0
          (listingStatements program.landmarks 0 program.instructions.toList)) := by
  have serves := serves_landmarks split completes named
  have written := writes_listingBody serves wellFormed 0
  have meanings := means_numberedLines written 3
  obtain ⟨consistent, found⟩ := consistent_listingStatements
    (landmarks_names_nodup split completes) serves wellFormed
  obtain ⟨reread, renders⟩ := exists_renders
    (numberedLines 3 (listingBody program.landmarks 0 program.instructions.toList)) consistent
  refine ⟨reread, ?_, ?_, renders.labels⟩
  · rw [read_eq_ok_iff, retainedLines_listing written]
    exact ⟨_, meanings, consistent, renders⟩
  · rw [Program.Agrees, Program.actions, Program.actions, renders.instructions,
      map_unplaced_instructions _ meanings]
    exact actions_listingStatements found serves wellFormed 0

/-- The listing of a well-formed program reads back to a program that agrees with it. The labels
are those in range and one generated name for each jump target without a label. -/
theorem read_listing (program : Program) (wellFormed : program.WellFormed)
    (named : ∀ name ∈ program.labels.keys, isName name.toList = true) :
    ∃ reread generated, read program.listing = .ok reread ∧ reread.Agrees program ∧
      reread.labels.entries.Perm (program.labelsInRange ++ generated) ∧
      Completes program.labels.entries generated program.instructions.toList := by
  obtain ⟨generated, split, completes⟩ := program.exists_landmarks
  obtain ⟨reread, accepted, agrees, labels⟩ :=
    exists_read_listing split completes wellFormed named
  refine ⟨reread, generated, accepted, agrees, ?_, completes⟩
  have marks := marks_listingStatements program.landmarks program.instructions.toList 0
  rw [labels]
  refine marks.trans (List.Perm.trans (List.Perm.of_eq ?_)
    (landmarks_in_range split completes wellFormed))
  have size : 0 + program.instructions.toList.length = program.size := by
    rw [Nat.zero_add, Array.length_toList, Program.size]
  rw [size]
  rfl

/-- The labels of this program include a name that looks generated and one out of range, and the
target of its first jump has no label. -/
def loopWithoutLabel : Program where
  instructions := #[
    { opcode := .jumpIfZero, target := some 2 },
    { opcode := .copyTo, address := some ⟨3, true⟩ },
    { opcode := .outbox },
    { opcode := .jump, target := some 3 }]
  labels := ⟨[("L0", 3), ("DEFINE", 3), ("far", 9)], by decide⟩

theorem read_listing_loopWithoutLabel :
    ∃ reread generated, read loopWithoutLabel.listing = .ok reread ∧
      reread.Agrees loopWithoutLabel ∧
      reread.labels.entries.Perm (loopWithoutLabel.labelsInRange ++ generated) ∧
      Completes loopWithoutLabel.labels.entries generated loopWithoutLabel.instructions.toList :=
  read_listing loopWithoutLabel (by decide +kernel) (by decide +kernel)

end OfficeMachine
