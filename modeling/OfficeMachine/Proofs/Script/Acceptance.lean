/-
This file settles which scripts are read and what program they give. A script is read exactly if
the lines that the worker obeys make consistent statements, and its program is well-formed.
-/

import OfficeMachine.Proofs.Program.WellFormed
import OfficeMachine.Proofs.Script.Reading

namespace OfficeMachine.Script

def Statement.isAct : Statement → Bool
  | .label _ => false
  | .act _ _ => true

/-- A mark points to an instruction or behind the last one. -/
theorem le_of_mem_marksFrom {count : Nat} {statements : List Statement} {name : String}
    {index : Nat} (member : (name, index) ∈ marksFrom count statements) :
    index ≤ count + statements.countP Statement.isAct := by
  induction statements generalizing count with
  | nil => cases member
  | cons statement rest inductionHypothesis =>
      cases statement with
      | label other =>
          rw [List.countP_cons_of_neg (by simp [Statement.isAct])]
          rcases List.mem_cons.mp member with here | later
          · have same : index = count := congrArg Prod.snd here
            omega
          · exact inductionHypothesis later
      | act opcode operand =>
          have bound : index ≤ count + 1 + rest.countP Statement.isAct :=
            inductionHypothesis member
          rw [List.countP_cons_of_pos rfl]
          omega

/-- A declared name has a mark. -/
theorem exists_lookup_marksFrom {statements : List Statement} {name : String} (count : Nat)
    (declared : name ∈ declaredNames statements) :
    ∃ index, (marksFrom count statements).lookup name = some index ∧
      index ≤ count + statements.countP Statement.isAct := by
  cases found : (marksFrom count statements).lookup name with
  | none =>
      rw [List.lookup_eq_none_iff] at found
      rw [← map_fst_marksFrom count, List.mem_map] at declared
      obtain ⟨mark, member, same⟩ := declared
      have different := found mark member
      simp [same] at different
  | some index =>
      obtain ⟨before, after, split, -⟩ := List.lookup_eq_some_iff.mp found
      have member : (name, index) ∈ marksFrom count statements := by
        rw [split]
        simp
      exact ⟨index, rfl, le_of_mem_marksFrom member⟩

theorem Renders.size {program : Program} {lines : List Line} {statements : List Statement}
    (meanings : List.Forall₂ Line.Means lines statements)
    (renders : Renders program lines statements) :
    program.size = statements.countP Statement.isAct := by
  have second := map_snd_zip_of_means meanings
  rw [Program.size, ← Array.length_toList, renders.instructions, List.length_filterMap_eq_countP]
  conv_rhs => rw [← second, List.countP_map]
  congr 1
  funext ⟨line, statement⟩
  cases statement <;> rfl

/-- A program that renders consistent lines of the grammar is well-formed. -/
theorem Renders.wellFormed {program : Program} {lines : List Line} {statements : List Statement}
    (meanings : List.Forall₂ Line.Means lines statements) (consistent : Consistent statements)
    (renders : Renders program lines statements) : program.WellFormed := by
  intro instruction member
  rw [renders.instructions] at member
  obtain ⟨⟨line, statement⟩, inside, given⟩ := List.mem_filterMap.mp member
  have meaning := (List.forall₂_iff_zip.mp meanings).2 inside
  have writable {digits : String} (isNumber : Numeral.isDigits digits.toList = true)
      (short : digits.length ≤ Numeral.digitLimit) :
      Numeral.isWritable (Numeral.value digits.toList : Int) = true := by
    rw [← String.length_toList] at short
    rw [Numeral.isWritable_iff, Int.natAbs_natCast]
    exact Numeral.value_lt isNumber short
  cases meaning with
  | declaration name wellNamed shape => cases given
  | bare opcode takes shape =>
      rw [← Option.some.inj given]
      simp [decode, Instruction.Suits, takes]
  | direct opcode takes digits isNumber short shape =>
      rw [← Option.some.inj given]
      simp [decode, Instruction.Suits, takes, writable isNumber short]
  | indirect opcode takes digits isNumber short shape =>
      rw [← Option.some.inj given]
      simp [decode, Instruction.Suits, takes, writable isNumber short]
  | jump opcode takes name wellNamed shape =>
      have listed : Statement.act opcode (.label name) ∈ statements := (List.of_mem_zip inside).2
      obtain ⟨index, found, bound⟩ :=
        exists_lookup_marksFrom 0 (consistent.declared opcode name listed)
      rw [← Option.some.inj given, renders.size meanings]
      simp only [decode, Instruction.Suits, takes, found]
      omega

/-- A script that is read gives a well-formed program. -/
theorem wellFormed_of_read {source : String} {program : Program}
    (accepted : read source = .ok program) : program.WellFormed := by
  obtain ⟨statements, meanings, consistent, renders⟩ := read_eq_ok_iff.mp accepted
  exact renders.wellFormed meanings consistent

/-- The labels of a program are the names that its statements declare. -/
theorem Renders.keys_labels {program : Program} {lines : List Line} {statements : List Statement}
    (renders : Renders program lines statements) :
    program.labels.keys = declaredNames statements := by
  rw [Table.keys, renders.labels, List.map_map, ← map_fst_marksFrom 0]
  rfl

/-- Lines of the grammar declare only names. -/
theorem isName_of_means {lines : List Line} {statements : List Statement}
    (meanings : List.Forall₂ Line.Means lines statements) :
    ∀ name ∈ declaredNames statements, isName name.toList = true := by
  induction meanings with
  | nil => exact List.forall_mem_nil _
  | cons meaning _ inductionHypothesis =>
      cases meaning with
      | declaration name wellNamed shape =>
          exact List.forall_mem_cons.mpr ⟨wellNamed, inductionHypothesis⟩
      | bare _ _ _ => exact inductionHypothesis
      | direct _ _ _ _ _ _ => exact inductionHypothesis
      | indirect _ _ _ _ _ _ => exact inductionHypothesis
      | jump _ _ _ _ _ => exact inductionHypothesis

theorem isName_of_read {source : String} {program : Program}
    (accepted : read source = .ok program) :
    ∀ name ∈ program.labels.keys, isName name.toList = true := by
  obtain ⟨statements, meanings, -, renders⟩ := read_eq_ok_iff.mp accepted
  rw [renders.keys_labels]
  exact isName_of_means meanings

/-- Consistent statements always have a program that renders them. -/
theorem exists_renders (lines : List Line) {statements : List Statement}
    (consistent : Consistent statements) : ∃ program, Renders program lines statements := by
  refine ⟨⟨((lines.zip statements).filterMap fun pair =>
      pair.2.instruction? (marksFrom 0 statements) pair.1).toArray,
    ⟨(marksFrom 0 statements).map fun mark => (mark.1, (mark.2 : Int)), ?_⟩⟩, ?_, ?_⟩
  · rw [List.map_map]
    change ((marksFrom 0 statements).map Prod.fst).Nodup
    rw [map_fst_marksFrom]
    exact consistent.distinct
  · rfl
  · rfl

/-- An act without a line gives an action. -/
def Statement.action? (marks : List (String × Nat)) (statement : Statement) :
    Option Instruction :=
  statement.instruction? marks ⟨0, "", []⟩

theorem map_unplaced_instructions (marks : List (String × Nat)) {lines : List Line}
    {statements : List Statement} (meanings : List.Forall₂ Line.Means lines statements) :
    ((lines.zip statements).filterMap fun pair => pair.2.instruction? marks pair.1).map
        Instruction.unplaced =
      statements.filterMap (Statement.action? marks) := by
  have second := map_snd_zip_of_means meanings
  conv_rhs => rw [← second]
  rw [List.filterMap_map, List.map_filterMap]
  congr 1
  funext ⟨line, statement⟩
  cases statement with
  | label name => rfl
  | act opcode operand => cases operand <;> rfl

/-- The actions of a program come from the statements alone. -/
theorem Renders.actions_eq {program : Program} {lines : List Line} {statements : List Statement}
    (meanings : List.Forall₂ Line.Means lines statements)
    (renders : Renders program lines statements) :
    program.actions = statements.filterMap (Statement.action? (marksFrom 0 statements)) := by
  rw [Program.actions, renders.instructions, map_unplaced_instructions _ meanings]

/-- The instructions of a program stand on lines with increasing numbers. -/
theorem Renders.lines_increase {program : Program} {lines : List Line}
    {statements : List Statement} (meanings : List.Forall₂ Line.Means lines statements)
    (renders : Renders program lines statements)
    (increase : lines.Pairwise fun first second => first.number < second.number) :
    (program.instructions.toList.map Instruction.line).Pairwise (· < ·) := by
  rw [renders.instructions, List.pairwise_map, List.pairwise_filterMap]
  have zipped : (lines.zip statements).Pairwise fun first second =>
      first.1.number < second.1.number := by
    have first : (lines.zip statements).map Prod.fst = lines :=
      List.map_fst_zip (Nat.le_of_eq meanings.length_eq)
    rwa [← first, List.pairwise_map] at increase
  refine zipped.imp ?_
  rintro ⟨first, act⟩ ⟨second, other⟩ before one given two taken
  have lineOf {line : Line} {statement : Statement} {instruction : Instruction}
      (made : statement.instruction? (marksFrom 0 statements) line = some instruction) :
      instruction.line = line.number := by
    cases statement with
    | label name => cases made
    | act opcode operand => rw [← Option.some.inj made]; cases operand <;> rfl
  rw [lineOf given, lineOf taken]
  exact Int.ofNat_lt.mpr before

/-- Reading follows the grammar in both directions. A script is read exactly if each obeyed line has
a meaning and the statements are consistent, and the program is the one that renders them. -/
theorem read_accepts_exactly_grammar (source : String) :
    ((∃ program, read source = .ok program) ↔
      ∃ statements, List.Forall₂ Line.Means (obeyedLines source) statements ∧
        Consistent statements) ∧
    (∀ program, read source = .ok program ↔
      ∃ statements, List.Forall₂ Line.Means (obeyedLines source) statements ∧
        Consistent statements ∧ Renders program (obeyedLines source) statements ∧
        (program.instructions.toList.map Instruction.line).Pairwise (· < ·)) ∧
    (physicalLines source).map Line.number = List.range' 1 (physicalLines source).length := by
  rw [← retainedLines_eq_obeyedLines]
  refine ⟨⟨?_, ?_⟩, fun program => ⟨?_, ?_⟩, ?_⟩
  · intro given
    obtain ⟨program, accepted⟩ := given
    obtain ⟨statements, meanings, consistent, -⟩ := read_eq_ok_iff.mp accepted
    exact ⟨statements, meanings, consistent⟩
  · intro given
    obtain ⟨statements, meanings, consistent⟩ := given
    obtain ⟨program, renders⟩ := exists_renders (retainedLines source) consistent
    exact ⟨program, read_eq_ok_iff.mpr ⟨statements, meanings, consistent, renders⟩⟩
  · intro accepted
    obtain ⟨statements, meanings, consistent, renders⟩ := read_eq_ok_iff.mp accepted
    exact ⟨statements, meanings, consistent, renders,
      renders.lines_increase meanings (retainedLines_increase source)⟩
  · intro given
    obtain ⟨statements, meanings, consistent, renders, -⟩ := given
    exact read_eq_ok_iff.mpr ⟨statements, meanings, consistent, renders⟩
  · apply List.ext_getElem
    · simp
    · intro index inside counted
      rw [List.getElem_map, List.getElem_range',
        number_of_physicalLines (List.getElem?_eq_getElem (by simpa using inside))]
      omega

end OfficeMachine.Script
