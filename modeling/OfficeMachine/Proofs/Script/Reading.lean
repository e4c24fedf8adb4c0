/-
This file tells what a script denotes. The first pass collects the declared names and the pending
instructions of all lines, the second one looks up the names, and both succeed exactly if each line
follows the grammar, no name is declared twice and each jump goes to a declared name.
-/

import OfficeMachine.Script.Reader
import OfficeMachine.Proofs.Outcome
import OfficeMachine.Proofs.Script.Retention

namespace OfficeMachine.Script

/-- A declaration declares its name. -/
def Statement.declared? : Statement → Option String
  | .label name => some name
  | .act _ _ => none

def declaredNames (statements : List Statement) : List String :=
  statements.filterMap Statement.declared?

/-- Each declared name marks the number of instructions in front of its declaration. -/
def marksFrom : Nat → List Statement → List (String × Nat)
  | _, [] => []
  | count, .label name :: rest => (name, count) :: marksFrom count rest
  | count, .act _ _ :: rest => marksFrom (count + 1) rest

/-- An operand is decoded with the marks, and the instruction remembers the number of its line. -/
def decode (marks : List (String × Nat)) (line : Line) (opcode : Opcode) : Operand → Instruction
  | .nothing => { opcode := opcode, line := line.number }
  | .tile address => { opcode := opcode, address := some address, line := line.number }
  | .label name => { opcode := opcode, target := marks.lookup name, line := line.number }

/-- Only an act gives an instruction. -/
def Statement.instruction? (marks : List (String × Nat)) (line : Line) :
    Statement → Option Instruction
  | .label _ => none
  | .act opcode operand => some (decode marks line opcode operand)

/-- Statements are consistent if no name is declared twice and each jump goes to a declared one. -/
structure Consistent (statements : List Statement) : Prop where
  distinct : (declaredNames statements).Nodup
  declared : ∀ opcode name, .act opcode (.label name) ∈ statements →
    name ∈ declaredNames statements

/-- A program renders lines that make statements if it has their marks and their instructions, both
in the order of the lines. -/
structure Renders (program : Program) (lines : List Line) (statements : List Statement) :
    Prop where
  labels : program.labels.entries =
    (marksFrom 0 statements).map fun mark => (mark.1, (mark.2 : Int))
  instructions : program.instructions.toList =
    (lines.zip statements).filterMap fun pair =>
      pair.2.instruction? (marksFrom 0 statements) pair.1

theorem map_fst_marksFrom (count : Nat) (statements : List Statement) :
    (marksFrom count statements).map Prod.fst = declaredNames statements := by
  induction statements generalizing count with
  | nil => rfl
  | cons statement rest inductionHypothesis =>
      cases statement with
      | label name =>
          rw [marksFrom, List.map_cons, inductionHypothesis count]
          rfl
      | act opcode operand =>
          rw [marksFrom, inductionHypothesis (count + 1)]
          rfl

/-- The grammar gives a line at most one statement. -/
theorem Line.Means.unique {line : Line} (cut : line.IsCut) {first second : Statement}
    (meaning : line.Means first) (other : line.Means second) : first = second := by
  have same := (Statement.read_of_means cut meaning).symm.trans (Statement.read_of_means cut other)
  exact Except.ok.inj same

namespace Draft

/-- The draft takes up the statements of lines without a look at their names. -/
def absorb (draft : Draft) (pairs : List (Line × Statement)) : Draft :=
  pairs.foldl (fun draft pair => draft.add pair.1 pair.2) draft

theorem judge_eq_ok_iff (draft : Draft) {line : Line} (cut : line.IsCut)
    {statement : Statement} :
    draft.judge line = .ok statement ↔
      line.Means statement ∧ ∀ name, statement.declared? = some name → name ∉ draft.marks.keys := by
  rw [← Statement.read_eq_ok_iff cut]
  unfold judge
  cases read : Statement.read line.tokens with
  | error refusal => simp
  | ok given =>
      cases given with
      | act opcode operand =>
          constructor
          · intro accepted
            have same := Except.ok.inj accepted
            exact ⟨by rw [same], by simp [← same, Statement.declared?]⟩
          · intro given
            obtain ⟨same, -⟩ := given
            rw [← Except.ok.inj same]
      | label name =>
          cases found : draft.marks.find? name with
          | none =>
              have fresh := (Table.find?_eq_none_iff _ _).mp found
              simp only [found]
              constructor
              · intro accepted
                have same := Except.ok.inj accepted
                refine ⟨by rw [same], fun other declared => ?_⟩
                rw [← same] at declared
                rw [← Option.some.inj declared]
                exact fresh
              · intro given
                obtain ⟨same, -⟩ := given
                rw [← Except.ok.inj same]
          | some mark =>
              simp only [found]
              constructor
              · intro accepted
                cases accepted
              · intro given
                obtain ⟨same, unknown⟩ := given
                have fresh := unknown name (by rw [← Except.ok.inj same]; rfl)
                rw [← Table.find?_eq_none_iff, found] at fresh
                cases fresh

theorem keys_add_label {draft : Draft} {line : Line} {name : String}
    (fresh : name ∉ draft.marks.keys) :
    (draft.add line (.label name)).marks.keys = draft.marks.keys ++ [name] := by
  simp [add, Table.keys, Table.entries_put_of_fresh _ _ _ fresh]

theorem fresh_of_nodup {draft : Draft} {statement : Statement} {statements : List Statement}
    (distinct : (draft.marks.keys ++ declaredNames (statement :: statements)).Nodup)
    {name : String} (declares : statement.declared? = some name) : name ∉ draft.marks.keys := by
  intro member
  have listed : name ∈ declaredNames (statement :: statements) := by
    simp [declaredNames, declares]
  exact (List.nodup_append.mp distinct).2.2 name member name listed rfl

/-- A name that is declared moves from the names to come to the names that are known. -/
theorem nodup_add_iff {draft : Draft} {statement : Statement} (line : Line)
    (statements : List Statement)
    (fresh : ∀ name, statement.declared? = some name → name ∉ draft.marks.keys) :
    ((draft.add line statement).marks.keys ++ declaredNames statements).Nodup ↔
      (draft.marks.keys ++ declaredNames (statement :: statements)).Nodup := by
  cases statement with
  | act opcode operand => exact Iff.rfl
  | label name =>
      rw [keys_add_label (fresh name rfl), List.append_assoc]
      exact Iff.rfl

/-- The first pass succeeds exactly if each line follows the grammar and its names are new. -/
theorem addAll_eq_none_iff {lines : List Line} (cut : ∀ line ∈ lines, line.IsCut)
    (draft final : Draft) :
    draft.addAll lines = (final, none) ↔
      ∃ statements, List.Forall₂ Line.Means lines statements ∧
        (draft.marks.keys ++ declaredNames statements).Nodup ∧
        final = draft.absorb (lines.zip statements) := by
  induction lines generalizing draft with
  | nil =>
      constructor
      · intro done
        refine ⟨[], .nil, ?_, (congrArg Prod.fst done).symm⟩
        rw [declaredNames, List.filterMap_nil, List.append_nil]
        exact draft.marks.distinct
      · intro given
        obtain ⟨statements, meanings, -, same⟩ := given
        cases meanings
        rw [same]
        rfl
  | cons line rest inductionHypothesis =>
      have lineCut : line.IsCut := cut line (by simp)
      have restCut : ∀ other ∈ rest, other.IsCut := fun other member => cut other (by simp [member])
      constructor
      · intro done
        unfold addAll at done
        split at done
        · rename_i statement judged
          obtain ⟨meaning, fresh⟩ := (judge_eq_ok_iff draft lineCut).mp judged
          obtain ⟨statements, meanings, distinct, same⟩ :=
            (inductionHypothesis restCut (draft.add line statement)).mp done
          rw [nodup_add_iff line statements fresh] at distinct
          exact ⟨statement :: statements, .cons meaning meanings, distinct, same⟩
        · cases done
      · intro given
        obtain ⟨statements, meanings, distinct, same⟩ := given
        cases meanings with
        | @cons _ statement _ statements meaning meanings =>
            have fresh (name : String) (declares : statement.declared? = some name) :
                name ∉ draft.marks.keys := fresh_of_nodup distinct declares
            have judged := (judge_eq_ok_iff draft lineCut).mpr ⟨meaning, fresh⟩
            rw [← nodup_add_iff line statements fresh] at distinct
            unfold addAll
            rw [judged]
            exact (inductionHypothesis restCut (draft.add line statement)).mpr
              ⟨statements, meanings, distinct, same⟩

/-- The marks of a draft without the lines of their declarations. -/
def landmarks (draft : Draft) : List (String × Nat) :=
  draft.marks.entries.map fun entry => (entry.1, entry.2.index)

theorem map_fst_landmarks (draft : Draft) : draft.landmarks.map Prod.fst = draft.marks.keys := by
  simp only [landmarks, List.map_map, Table.keys]
  rfl

theorem landmarks_absorb (draft : Draft) (pairs : List (Line × Statement))
    (distinct : (draft.marks.keys ++ declaredNames (pairs.map Prod.snd)).Nodup) :
    (draft.absorb pairs).landmarks =
      draft.landmarks ++ marksFrom draft.pending.size (pairs.map Prod.snd) := by
  induction pairs generalizing draft with
  | nil => simp [absorb, marksFrom]
  | cons pair rest inductionHypothesis =>
      obtain ⟨line, statement⟩ := pair
      have step : draft.absorb ((line, statement) :: rest) =
        (draft.add line statement).absorb rest := rfl
      cases statement with
      | act opcode operand =>
          rw [step, inductionHypothesis (draft.add line (.act opcode operand)) distinct]
          simp [marksFrom, add, landmarks]
      | label name =>
          have fresh : name ∉ draft.marks.keys := fresh_of_nodup distinct rfl
          have tail := (nodup_add_iff line (rest.map Prod.snd) fun other declares =>
            fresh_of_nodup distinct declares).mpr distinct
          rw [step, inductionHypothesis _ tail]
          simp [marksFrom, add, landmarks, Table.entries_put_of_fresh _ _ _ fresh]

/-- An act waits for the second pass. -/
def pending? : Line × Statement → Option Pending
  | (_, .label _) => none
  | (line, .act opcode operand) => some ⟨opcode, operand, line⟩

theorem pending_absorb (draft : Draft) (pairs : List (Line × Statement)) :
    (draft.absorb pairs).pending.toList = draft.pending.toList ++ pairs.filterMap pending? := by
  induction pairs generalizing draft with
  | nil => simp [absorb]
  | cons pair rest inductionHypothesis =>
      obtain ⟨line, statement⟩ := pair
      have step : draft.absorb ((line, statement) :: rest) =
        (draft.add line statement).absorb rest := rfl
      rw [step, inductionHypothesis]
      cases statement with
      | act opcode operand => simp [add, pending?]
      | label name => rw [List.filterMap_cons_none rfl]; rfl

end Draft

/-- Looking up an index in the marks is looking it up in the landmarks. -/
theorem lookup_landmarks (draft : Draft) (name : String) :
    draft.landmarks.lookup name = (draft.marks.find? name).map Mark.index := by
  simp only [Draft.landmarks, Table.find?]
  induction draft.marks.entries with
  | nil => rfl
  | cons entry rest inductionHypothesis =>
      by_cases same : entry.1 = name
      · simp [same]
      · have different : (name == entry.1) = false := beq_false_of_ne (Ne.symm same)
        simpa [List.lookup_cons, same, different] using inductionHypothesis

/-- A pending instruction is resolved unless it jumps to an unknown name. -/
theorem Pending.resolve_eq_ok_iff {draft : Draft} {pending : Pending} {instruction : Instruction} :
    pending.resolve draft.marks = .ok instruction ↔
      (∀ name, pending.operand = .label name → name ∈ draft.marks.keys) ∧
        decode draft.landmarks pending.line pending.opcode pending.operand = instruction := by
  unfold Pending.resolve
  cases kind : pending.operand with
  | nothing => simp [decode]
  | tile address => simp [decode]
  | label name =>
      have looked := lookup_landmarks draft name
      cases found : draft.marks.find? name with
      | some mark =>
          have known : name ∈ draft.marks.keys := by
            rw [← not_not (a := name ∈ draft.marks.keys), ← Table.find?_eq_none_iff, found]
            simp
          simp [decode, looked, found, known]
      | none =>
          have unknown := (Table.find?_eq_none_iff _ _).mp found
          simp [found, unknown]

/-- The second pass succeeds exactly if all jumps go to known names. -/
theorem Draft.resolve_eq_ok_iff {draft : Draft} {program : Program} :
    draft.resolve = .ok program ↔
      (∀ pending ∈ draft.pending.toList, ∀ name, pending.operand = .label name →
        name ∈ draft.marks.keys) ∧
      program.instructions.toList = draft.pending.toList.map (fun pending =>
        decode draft.landmarks pending.line pending.opcode pending.operand) ∧
      program.labels = draft.labels := by
  have listed (instructions : List Instruction) :
      draft.pending.toList.mapM (Pending.resolve draft.marks) = .ok instructions ↔
        (∀ pending ∈ draft.pending.toList, ∀ name, pending.operand = .label name →
          name ∈ draft.marks.keys) ∧
        draft.pending.toList.map (fun pending =>
          decode draft.landmarks pending.line pending.opcode pending.operand) = instructions := by
    rw [mapM_eq_ok_iff]
    simp only [Pending.resolve_eq_ok_iff]
    rw [List.forall₂_and_left, ← List.forall₂_eq_eq_eq, List.forall₂_map_left_iff]
  unfold Draft.resolve
  rw [bind_eq_ok_iff]
  constructor
  · intro given
    obtain ⟨instructions, resolved, same⟩ := given
    obtain ⟨known, decoded⟩ := (listed instructions).mp resolved
    rw [← Except.ok.inj same]
    exact ⟨known, decoded.symm, rfl⟩
  · intro given
    obtain ⟨known, decoded, labels⟩ := given
    refine ⟨program.instructions.toList, (listed _).mpr ⟨known, decoded.symm⟩, ?_⟩
    rw [← labels]
    rfl

theorem read_eq_ok_iff_draft {source : String} {program : Program} :
    read source = .ok program ↔
      ∃ draft, Draft.empty.addAll (retainedLines source) = (draft, none) ∧
        draft.resolve = .ok program := by
  unfold read Reader.read
  split
  · rename_i draft done
    constructor
    · intro resolved
      exact ⟨draft, done, resolved⟩
    · intro given
      obtain ⟨other, same, resolved⟩ := given
      have equal : draft = other := congrArg Prod.fst (done.symm.trans same)
      rw [equal]
      exact resolved
  · rename_i draft failure stopped
    constructor
    · intro impossible
      cases impossible
    · intro given
      obtain ⟨other, same, -⟩ := given
      have impossible := congrArg Prod.snd (stopped.symm.trans same)
      cases impossible

theorem map_snd_zip_of_means {lines : List Line} {statements : List Statement}
    (meanings : List.Forall₂ Line.Means lines statements) :
    (lines.zip statements).map Prod.snd = statements :=
  List.map_snd_zip (Nat.le_of_eq meanings.length_eq.symm)

/-- The draft of a script knows what the statements of its lines declare and what they act. -/
theorem absorb_empty {lines : List Line} {statements : List Statement}
    (meanings : List.Forall₂ Line.Means lines statements)
    (distinct : (declaredNames statements).Nodup) :
    let draft := Draft.empty.absorb (lines.zip statements)
    draft.landmarks = marksFrom 0 statements ∧ draft.marks.keys = declaredNames statements ∧
      draft.pending.toList = (lines.zip statements).filterMap Draft.pending? := by
  have second := map_snd_zip_of_means meanings
  have marks := Draft.landmarks_absorb Draft.empty (lines.zip statements) (by
    rw [second]
    exact distinct)
  rw [second] at marks
  refine ⟨marks, ?_, ?_⟩
  · rw [← Draft.map_fst_landmarks, marks]
    exact map_fst_marksFrom 0 statements
  · exact Draft.pending_absorb Draft.empty (lines.zip statements)

theorem Consistent.declared_iff {lines : List Line} {statements : List Statement}
    (meanings : List.Forall₂ Line.Means lines statements) :
    (∀ opcode name, Statement.act opcode (.label name) ∈ statements →
      name ∈ declaredNames statements) ↔
    ∀ pending ∈ (lines.zip statements).filterMap Draft.pending?, ∀ name,
      pending.operand = .label name → name ∈ declaredNames statements := by
  have second := map_snd_zip_of_means meanings
  constructor
  · intro declared pending member name jumps
    obtain ⟨⟨line, statement⟩, inside, same⟩ := List.mem_filterMap.mp member
    cases statement with
    | label other => cases same
    | act opcode operand =>
        rw [← Option.some.inj same] at jumps
        refine declared opcode name ?_
        rw [← second, ← jumps]
        exact List.mem_map_of_mem inside
  · intro known opcode name member
    rw [← second] at member
    obtain ⟨⟨line, statement⟩, inside, same⟩ := List.mem_map.mp member
    rw [show statement = .act opcode (.label name) from same] at inside
    exact known ⟨opcode, .label name, line⟩ (List.mem_filterMap.mpr ⟨_, inside, rfl⟩) name rfl

/-- The instructions of statements are the decoded acts among them. -/
theorem map_decode_pending (marks : List (String × Nat)) (pairs : List (Line × Statement)) :
    (pairs.filterMap Draft.pending?).map (fun pending =>
        decode marks pending.line pending.opcode pending.operand) =
      pairs.filterMap fun pair => pair.2.instruction? marks pair.1 := by
  rw [List.map_filterMap]
  congr 1
  funext ⟨line, statement⟩
  cases statement <;> rfl

theorem eq_labels_iff (draft : Draft) (labels : Table String Int) :
    labels = draft.labels ↔
      labels.entries = draft.landmarks.map fun mark => (mark.1, (mark.2 : Int)) := by
  have entries : draft.labels.entries =
      draft.landmarks.map fun mark => (mark.1, (mark.2 : Int)) := by
    simp only [Draft.labels, Draft.landmarks, Table.mapValues, List.map_map]
    rfl
  rw [← entries]
  exact ⟨congrArg Table.entries, Table.ext⟩

/-- A script is read exactly if its retained lines make consistent statements, and the program
that it gives renders them. -/
theorem read_eq_ok_iff {source : String} {program : Program} :
    read source = .ok program ↔
      ∃ statements, List.Forall₂ Line.Means (retainedLines source) statements ∧
        Consistent statements ∧ Renders program (retainedLines source) statements := by
  rw [read_eq_ok_iff_draft]
  simp only [Draft.addAll_eq_none_iff (fun _ => isCut_of_mem_retainedLines),
    Draft.resolve_eq_ok_iff]
  constructor
  · intro given
    obtain ⟨draft, ⟨statements, meanings, distinct, same⟩, known, instructions, labels⟩ := given
    have bare : (declaredNames statements).Nodup := distinct
    obtain ⟨marks, keys, pending⟩ := absorb_empty meanings bare
    rw [← same] at marks keys pending
    rw [marks, pending, map_decode_pending] at instructions
    rw [eq_labels_iff, marks] at labels
    rw [keys, pending] at known
    exact ⟨statements, meanings, ⟨bare, (Consistent.declared_iff meanings).mpr known⟩,
      ⟨labels, instructions⟩⟩
  · intro given
    obtain ⟨statements, meanings, consistent, renders⟩ := given
    obtain ⟨marks, keys, pending⟩ := absorb_empty meanings consistent.distinct
    refine ⟨Draft.empty.absorb ((retainedLines source).zip statements),
      ⟨statements, meanings, consistent.distinct, rfl⟩, ?_, ?_, ?_⟩
    · rw [pending, keys]
      exact (Consistent.declared_iff meanings).mp consistent.declared
    · rw [pending, marks, map_decode_pending]
      exact renders.instructions
    · rw [eq_labels_iff, marks]
      exact renders.labels

end OfficeMachine.Script
