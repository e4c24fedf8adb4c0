/-
This file tells which labels a reader knows after a script. They are the declarations of all lines if
every line suits the draft, and otherwise the declarations above the line that does not.
-/

import OfficeMachine.Proofs.Script.Rejection
import OfficeMachine.Proofs.Table

namespace OfficeMachine.Script

/-- Labels tabulate lines that make statements if they are the declared names in their order, each
with the number of acts above its declaration. -/
structure Tabulates (labels : Table String Int) (lines : List Line) (statements : List Statement) :
    Prop where
  meanings : List.Forall₂ Line.Means lines statements
  keys : labels.keys = declaredNames statements
  index : ∀ (place : Nat) (name : String), statements[place]? = some (.label name) →
    labels.find? name = some (((statements.take place).countP Statement.isAct : Nat) : Int)

/-- The mark of a declaration counts the acts above it. -/
theorem mem_marksFrom_of_getElem? {statements : List Statement} {place : Nat} {name : String}
    (count : Nat) (here : statements[place]? = some (.label name)) :
    (name, count + (statements.take place).countP Statement.isAct) ∈ marksFrom count statements := by
  induction statements generalizing place count with
  | nil => cases here
  | cons statement rest inductionHypothesis =>
      cases place with
      | zero =>
          cases here
          exact List.mem_cons_self
      | succ place =>
          have later : rest[place]? = some (.label name) := here
          cases statement with
          | label other =>
              rw [List.take_succ_cons, List.countP_cons_of_neg (by simp [Statement.isAct])]
              exact List.mem_cons_of_mem _ (inductionHypothesis count later)
          | act opcode operand =>
              have member := inductionHypothesis (count + 1) later
              rw [List.take_succ_cons, List.countP_cons_of_pos rfl, ← Nat.add_assoc,
                Nat.add_right_comm]
              exact member

/-- The draft of lines with distinct names has the labels of these lines. -/
theorem tabulates_absorb {lines : List Line} {statements : List Statement}
    (meanings : List.Forall₂ Line.Means lines statements)
    (distinct : (declaredNames statements).Nodup) :
    Tabulates (Draft.empty.absorb (lines.zip statements)).labels lines statements := by
  obtain ⟨marks, keys, -⟩ := absorb_empty meanings distinct
  have entries := (eq_labels_iff (Draft.empty.absorb (lines.zip statements)) _).mp rfl
  rw [marks] at entries
  refine ⟨meanings, ?_, fun place name here => ?_⟩
  · rw [Table.keys, entries, List.map_map]
    exact map_fst_marksFrom 0 statements
  · have member := mem_marksFrom_of_getElem? 0 here
    rw [Nat.zero_add] at member
    rw [Table.find?_eq_some_iff, entries]
    exact List.mem_map_of_mem member

namespace Draft

variable {draft final : Draft} {earlier lines : List Line}

/-- If the first pass stops at a line, it has taken up exactly the lines above it. -/
theorem exists_stop {failure : Failure} (stopped : draft.addAll lines = (final, some failure)) :
    ∃ (index : Nat) (line : Line), lines[index]? = some line ∧
      draft.addAll (lines.take index) = (final, none) ∧ final.judge line = .error failure := by
  induction lines generalizing draft with
  | nil => cases stopped
  | cons line rest inductionHypothesis =>
      unfold addAll at stopped
      split at stopped
      · rename_i statement judged
        obtain ⟨index, other, here, taken, refused⟩ := inductionHypothesis stopped
        refine ⟨index + 1, other, here, ?_, refused⟩
        rw [List.take_succ_cons, addAll, judged]
        exact taken
      · rename_i other judged
        cases stopped
        exact ⟨0, line, rfl, rfl, judged⟩

theorem Knows.addAll (knows : draft.Knows earlier) (cut : ∀ line ∈ lines, line.IsCut)
    (taken : draft.addAll lines = (final, none)) : final.Knows (earlier ++ lines) := by
  induction lines generalizing draft earlier with
  | nil =>
      cases taken
      rwa [List.append_nil]
  | cons line rest inductionHypothesis =>
      obtain ⟨lineCut, restCut⟩ := List.forall_mem_cons.mp cut
      unfold Draft.addAll at taken
      split at taken
      · rename_i statement judged
        have known := inductionHypothesis (knows.add lineCut judged) restCut taken
        rwa [List.append_assoc, List.singleton_append] at known
      · cases taken

end Draft

def Failure.isUnknownLabel : Failure → Bool
  | .rejected error => error.kind = .unknownLabel
  | .overlong _ => false

/-- An unknown label is not noticed before the second pass. -/
theorem Line.Breaks.isUnknownLabel {earlier : List Line} {line : Line} {refusal : Refusal}
    (breaks : line.Breaks earlier refusal) : (refusal.on line).isUnknownLabel = false := by
  cases breaks with
  | misspelt misspells => cases misspells <;> rfl
  | repeated => rfl

/-- A reading leaves labels behind. After a program or an unknown label they are those of all lines,
and after any other failure those of the lines above the one that broke a rule. If that line declares
a name, then the name was declared above, and it keeps its index. -/
inductive Leaves (lines : List Line) : Except Failure Program → Table String Int → Prop where
  | program {program : Program} {statements : List Statement}
      (tabulates : Tabulates program.labels lines statements) :
      Leaves lines (.ok program) program.labels
  | unknownLabel {failure : Failure} {labels : Table String Int} {statements : List Statement}
      (unknown : failure.isUnknownLabel = true) (tabulates : Tabulates labels lines statements) :
      Leaves lines (.error failure) labels
  | stopped {index : Nat} {line : Line} {refusal : Refusal} {labels : Table String Int}
      {statements : List Statement} (here : lines[index]? = some line)
      (passed : Pass [] (lines.take index)) (breaks : line.Breaks (lines.take index) refusal)
      (known : (refusal.on line).isUnknownLabel = false)
      (tabulates : Tabulates labels (lines.take index) statements)
      (repeated : ∀ name, line.Means (.label name) →
        ∃ place : Nat, statements[place]? = some (.label name)) :
      Leaves lines (.error (refusal.on line)) labels

section Leaves

variable {lines : List Line} {final : Draft} (cut : ∀ line ∈ lines, line.IsCut)

include cut

/-- A first pass that comes to the end leaves all labels behind, whatever the second pass gives. -/
theorem leaves_of_taken (taken : Draft.empty.addAll lines = (final, none)) :
    Leaves lines final.resolve final.labels := by
  obtain ⟨statements, meanings, distinct, absorbed⟩ :=
    (Draft.addAll_eq_none_iff cut Draft.empty final).mp taken
  have tabulates := tabulates_absorb meanings distinct
  rw [← absorbed] at tabulates
  cases outcome : final.resolve with
  | ok program =>
      have labels := (Draft.resolve_eq_ok_iff.mp outcome).2.2
      rw [← labels] at tabulates ⊢
      exact .program tabulates
  | error failure =>
      rw [absorbed, resolve_absorb_eq_error_iff meanings cut distinct] at outcome
      obtain ⟨index, line, opcode, name, -, -, -, -, rfl⟩ := outcome
      exact .unknownLabel rfl tabulates

/-- A first pass that stops leaves the labels above the line behind at which it stops. -/
theorem leaves_of_stopped (inked : ∀ line ∈ lines, line.tokens ≠ []) {failure : Failure}
    (stopped : Draft.empty.addAll lines = (final, some failure)) :
    Leaves lines (.error failure) final.labels := by
  obtain ⟨index, line, here, taken, refused⟩ := Draft.exists_stop stopped
  have cutAbove : ∀ other ∈ lines.take index, other.IsCut :=
    fun other member => cut other (List.mem_of_mem_take member)
  have inkedAbove : ∀ other ∈ lines.take index, other.tokens ≠ [] :=
    fun other member => inked other (List.mem_of_mem_take member)
  have member := List.mem_of_getElem? here
  obtain ⟨statements, meanings, distinct, absorbed⟩ :=
    (Draft.addAll_eq_none_iff cutAbove Draft.empty final).mp taken
  have tabulates := tabulates_absorb meanings distinct
  rw [← absorbed] at tabulates
  have knows : final.Knows (lines.take index) := Draft.knows_empty.addAll cutAbove taken
  obtain ⟨refusal, breaks, rfl⟩ :=
    (Draft.judge_eq_error_iff knows (cut line member) (inked line member)).mp refused
  have passed : Pass [] (lines.take index) :=
    (Draft.addAll_iff cutAbove inkedAbove Draft.knows_empty).1.mp (by rw [taken])
  refine .stopped here passed breaks breaks.isUnknownLabel tabulates ?_
  intro name declares
  cases breaks with
  | misspelt misspells =>
      have read := Statement.read_of_means (cut line member) declares
      rw [Statement.read_of_misspells (cut line member) misspells] at read
      cases read
  | repeated above declared declaresToo =>
      cases Line.Means.unique (cut line member) declares declaresToo
      obtain ⟨place, found⟩ := List.mem_iff_getElem?.mp above
      have zipped := (getElem?_zip_iff_means meanings cutAbove).mpr ⟨found, declared⟩
      exact ⟨place, (List.getElem?_zip_eq_some.mp zipped).2⟩

end Leaves

/-- Every reading leaves its labels behind, also if the reader has read other scripts before. -/
theorem leaves_of_read (reader : Reader) (source : String) :
    Leaves (obeyedLines source) (reader.read source).1.outcome (reader.read source).2.labels := by
  rw [← retainedLines_eq_obeyedLines]
  have cut (line : Line) (member : line ∈ retainedLines source) : line.IsCut :=
    isCut_of_mem_retainedLines member
  have inked (line : Line) (member : line ∈ retainedLines source) : line.tokens ≠ [] :=
    inked_of_mem_retainedLines member
  unfold Reader.read
  split
  · rename_i draft taken
    exact leaves_of_taken cut taken
  · rename_i draft failure stopped
    exact leaves_of_stopped cut inked stopped

end OfficeMachine.Script
