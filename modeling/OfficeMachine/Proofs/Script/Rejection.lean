/-
This file tells which line a rejected script is blamed on. The first line that breaks a rule goes
before all others, and only if no line does, the first jump to a name that no line declares.
-/

import OfficeMachine.Proofs.Script.Mistakes
import OfficeMachine.Proofs.Script.Acceptance
import OfficeMachine.Proofs.Text.Lines

namespace OfficeMachine.Script

/-- A line breaks a rule behind earlier lines if it is misspelt or declares a name again. -/
inductive Line.Breaks (earlier : List Line) (line : Line) : Refusal → Prop where
  | misspelt {refusal : Refusal} (misspells : line.Misspells refusal) : line.Breaks earlier refusal
  | repeated {name : String} {first : Line} (member : first ∈ earlier)
      (declared : first.Means (.label name)) (declares : line.Means (.label name)) :
      line.Breaks earlier (.complaint (.declaredBefore name first.number))

/-- The lines pass behind earlier lines if each of them breaks no rule behind those before it. -/
def Pass (earlier lines : List Line) : Prop :=
  ∀ (index : Nat) (line : Line), lines[index]? = some line →
    ∀ refusal, ¬line.Breaks (earlier ++ lines.take index) refusal

/-- A name is declared if one of the lines declares it. -/
def Declares (lines : List Line) (name : String) : Prop :=
  ∃ line ∈ lines, line.Means (.label name)

/-- The lines are blamed on the first one that breaks a rule. If all pass, they are blamed on the
first jump to a name that is not declared. -/
inductive Blames (lines : List Line) (index : Nat) (line : Line) : Refusal → Prop where
  | breaks {refusal : Refusal} (here : lines[index]? = some line)
      (passed : Pass [] (lines.take index)) (breaks : line.Breaks (lines.take index) refusal) :
      Blames lines index line refusal
  | undeclared {opcode : Opcode} {name : String} (here : lines[index]? = some line)
      (passed : Pass [] lines)
      (declared : ∀ earlier ∈ lines.take index, ∀ opcode name,
        earlier.Means (.act opcode (.label name)) → Declares lines name)
      (jumps : line.Means (.act opcode (.label name))) (missing : ¬Declares lines name) :
      Blames lines index line (.complaint (.undeclared name))

theorem pass_nil (earlier : List Line) : Pass earlier [] := by
  intro index line here
  cases here

theorem pass_cons_iff {earlier rest : List Line} {line : Line} :
    Pass earlier (line :: rest) ↔
      (∀ refusal, ¬line.Breaks earlier refusal) ∧ Pass (earlier ++ [line]) rest := by
  constructor
  · intro passed
    constructor
    · intro refusal
      simpa using passed 0 line rfl refusal
    · intro index other here refusal
      simpa using passed (index + 1) other here refusal
  · rintro ⟨first, others⟩ index other here refusal
    cases index with
    | zero =>
        rw [← Option.some.inj here]
        simpa using first refusal
    | succ index => simpa using others index other here refusal

/-- A draft knows lines if its marks are the declarations of these lines. -/
def Draft.Knows (draft : Draft) (lines : List Line) : Prop :=
  ∀ name number, (∃ mark, draft.marks.find? name = some mark ∧ mark.line = number) ↔
    ∃ line ∈ lines, line.Means (.label name) ∧ line.number = number

namespace Draft

variable {draft : Draft} {earlier : List Line} {line : Line}

theorem knows_empty : Draft.empty.Knows [] := by
  intro name number
  simp [Draft.empty, Table.empty, Table.find?]

/-- A draft fails a line exactly if the line breaks a rule behind the lines that the draft knows. -/
theorem judge_eq_error_iff (knows : draft.Knows earlier) (cut : line.IsCut)
    (inked : line.tokens ≠ []) {failure : Failure} :
    draft.judge line = .error failure ↔
      ∃ refusal, line.Breaks earlier refusal ∧ failure = refusal.on line := by
  unfold judge
  cases read : Statement.read line.tokens with
  | error refusal =>
      constructor
      · intro failed
        exact ⟨refusal, .misspelt ((Statement.read_eq_error_iff cut inked).mp read),
          (Except.error.inj failed).symm⟩
      · rintro ⟨other, breaks, same⟩
        cases breaks with
        | misspelt misspells =>
            rw [(Statement.read_eq_error_iff cut inked).mpr misspells] at read
            rw [same, Except.error.inj read]
        | repeated _ _ declares =>
            rw [Statement.read_of_means cut declares] at read
            cases read
  | ok statement =>
      have spelt (refusal : Refusal) : ¬line.Misspells refusal := by
        intro misspells
        rw [Statement.read_of_misspells cut misspells] at read
        cases read
      have meaning := Statement.means_of_read cut read
      cases statement with
      | act opcode operand =>
          constructor
          · intro failed
            cases failed
          · rintro ⟨refusal, breaks, -⟩
            cases breaks with
            | misspelt misspells => exact absurd misspells (spelt _)
            | repeated _ _ declares => cases Line.Means.unique cut meaning declares
      | label name =>
          cases found : draft.marks.find? name with
          | none =>
              simp only [found]
              constructor
              · intro failed
                cases failed
              · rintro ⟨refusal, breaks, -⟩
                cases breaks with
                | misspelt misspells => exact absurd misspells (spelt _)
                | repeated member declared declares =>
                    cases Line.Means.unique cut meaning declares
                    obtain ⟨mark, known, -⟩ := (knows name _).mpr ⟨_, member, declared, rfl⟩
                    rw [found] at known
                    cases known
          | some mark =>
              simp only [found]
              constructor
              · intro failed
                obtain ⟨first, member, declared, same⟩ := (knows name _).mp ⟨mark, found, rfl⟩
                refine ⟨_, .repeated member declared meaning, ?_⟩
                rw [← Except.error.inj failed, same]
                rfl
              · rintro ⟨refusal, breaks, same⟩
                cases breaks with
                | misspelt misspells => exact absurd misspells (spelt _)
                | repeated member declared declares =>
                    cases Line.Means.unique cut meaning declares
                    obtain ⟨other, known, number⟩ := (knows name _).mpr ⟨_, member, declared, rfl⟩
                    rw [found] at known
                    rw [same, ← number, Option.some.inj known]
                    rfl

/-- A line that does not declare a name adds nothing to the declarations of the name. -/
theorem exists_declaration_concat_iff {name : String} (other : ¬line.Means (.label name))
    (number : Nat) :
    (∃ first ∈ earlier ++ [line], first.Means (.label name) ∧ first.number = number) ↔
      ∃ first ∈ earlier, first.Means (.label name) ∧ first.number = number := by
  simp only [List.mem_append, List.mem_singleton]
  constructor
  · rintro ⟨first, member | same, declared, told⟩
    · exact ⟨first, member, declared, told⟩
    · rw [same] at declared
      exact absurd declared other
  · rintro ⟨first, member, told⟩
    exact ⟨first, Or.inl member, told⟩

/-- A draft that takes up a line knows it. -/
theorem Knows.add (knows : draft.Knows earlier) (cut : line.IsCut) {statement : Statement}
    (judged : draft.judge line = .ok statement) :
    (draft.add line statement).Knows (earlier ++ [line]) := by
  obtain ⟨meaning, fresh⟩ := (judge_eq_ok_iff draft cut).mp judged
  intro name number
  cases statement with
  | act opcode operand =>
      have other : ¬line.Means (.label name) := by
        intro declared
        cases Line.Means.unique cut meaning declared
      rw [exists_declaration_concat_iff other]
      exact knows name number
  | label new =>
      have put : (draft.add line (.label new)).marks.find? name =
          if new = name then some ⟨draft.pending.size, line.number⟩
          else draft.marks.find? name := Table.find?_put _ _ _ _
      rw [put]
      by_cases same : new = name
      · subst same
        rw [if_pos rfl]
        constructor
        · rintro ⟨mark, given, told⟩
          rw [← Option.some.inj given] at told
          exact ⟨line, by simp, meaning, told⟩
        · rintro ⟨first, member, declared, told⟩
          rcases List.mem_append.mp member with before | here
          · -- The name is new, so none of the earlier lines declares it.
            obtain ⟨mark, found, -⟩ := (knows new number).mpr ⟨first, before, declared, told⟩
            rw [(Table.find?_eq_none_iff _ _).mpr (fresh new rfl)] at found
            cases found
          · rw [List.mem_singleton.mp here] at told
            exact ⟨_, rfl, told⟩
      · have other : ¬line.Means (.label name) := by
          intro declared
          cases Line.Means.unique cut meaning declared
          exact same rfl
        rw [if_neg same, exists_declaration_concat_iff other]
        exact knows name number

end Draft

/-- The lines trip over the first one that breaks a rule, and this is the failure. -/
def Trips (earlier lines : List Line) (failure : Failure) : Prop :=
  ∃ (index : Nat) (line : Line) (refusal : Refusal), lines[index]? = some line ∧
    Pass earlier (lines.take index) ∧ line.Breaks (earlier ++ lines.take index) refusal ∧
    failure = refusal.on line

theorem trips_cons_iff {earlier rest : List Line} {line : Line} {failure : Failure} :
    Trips earlier (line :: rest) failure ↔
      (∃ refusal, line.Breaks earlier refusal ∧ failure = refusal.on line) ∨
        ((∀ refusal, ¬line.Breaks earlier refusal) ∧ Trips (earlier ++ [line]) rest failure) := by
  constructor
  · rintro ⟨index, other, refusal, here, passed, breaks, same⟩
    cases index with
    | zero =>
        cases here
        exact Or.inl ⟨refusal, by simpa using breaks, same⟩
    | succ index =>
        rw [List.take_succ_cons] at passed breaks
        obtain ⟨first, others⟩ := pass_cons_iff.mp passed
        exact Or.inr ⟨first, index, other, refusal, here, others, by simpa using breaks, same⟩
  · rintro (⟨refusal, breaks, same⟩ | ⟨first, index, other, refusal, here, others, breaks, same⟩)
    · exact ⟨0, line, refusal, rfl, pass_nil earlier, by simpa using breaks, same⟩
    · refine ⟨index + 1, other, refusal, here, ?_, ?_, same⟩
      · exact pass_cons_iff.mpr ⟨first, others⟩
      · simpa using breaks

/-- The first pass succeeds exactly if the lines pass, and it fails exactly where they trip. -/
theorem Draft.addAll_iff {draft : Draft} {earlier lines : List Line}
    (cut : ∀ line ∈ lines, line.IsCut) (inked : ∀ line ∈ lines, line.tokens ≠ [])
    (knows : draft.Knows earlier) :
    ((draft.addAll lines).2 = none ↔ Pass earlier lines) ∧
      ∀ failure, (draft.addAll lines).2 = some failure ↔ Trips earlier lines failure := by
  induction lines generalizing draft earlier with
  | nil => simp [Draft.addAll, pass_nil, Trips]
  | cons line rest inductionHypothesis =>
      have lineCut := cut line (by simp)
      have failing {failure : Failure} : draft.judge line = .error failure ↔
          ∃ refusal, line.Breaks earlier refusal ∧ failure = refusal.on line :=
        judge_eq_error_iff knows lineCut (inked line (by simp))
      simp only [pass_cons_iff, trips_cons_iff]
      unfold Draft.addAll
      split
      · rename_i statement judged
        have fine (refusal : Refusal) : ¬line.Breaks earlier refusal := by
          intro breaks
          rw [failing.mpr ⟨refusal, breaks, rfl⟩] at judged
          cases judged
        have others := inductionHypothesis (fun other member => cut other (by simp [member]))
          (fun other member => inked other (by simp [member])) (knows.add lineCut judged)
        simpa [fine] using others
      · rename_i failure judged
        obtain ⟨refusal, breaks, same⟩ := failing.mp judged
        have broken : ¬∀ refusal, ¬line.Breaks earlier refusal := fun fine => fine refusal breaks
        simp only [broken, false_and, or_false, ← failing, judged, reduceCtorEq, true_and]
        simp

section Resolve

variable {lines : List Line} {statements : List Statement}

/-- The statement of a line stands at the same place as the line. -/
theorem getElem?_zip_iff_means (meanings : List.Forall₂ Line.Means lines statements)
    (cut : ∀ line ∈ lines, line.IsCut) {index : Nat} {line : Line} {statement : Statement} :
    (lines.zip statements)[index]? = some (line, statement) ↔
      lines[index]? = some line ∧ line.Means statement := by
  have means {other : Statement} (here : lines[index]? = some line)
      (told : statements[index]? = some other) : line.Means other :=
    (List.forall₂_iff_zip.mp meanings).2
      (List.mem_of_getElem? (List.getElem?_zip_eq_some.mpr ⟨here, told⟩))
  rw [List.getElem?_zip_eq_some]
  constructor
  · rintro ⟨here, told⟩
    exact ⟨here, means here told⟩
  · rintro ⟨here, meaning⟩
    have inside := (List.getElem?_eq_some_iff.mp here).1
    rw [meanings.length_eq] at inside
    have told := List.getElem?_eq_getElem inside
    refine ⟨here, ?_⟩
    rw [told, Line.Means.unique (cut line (List.mem_of_getElem? here)) meaning (means here told)]

theorem mem_zip_iff_means (meanings : List.Forall₂ Line.Means lines statements)
    (cut : ∀ line ∈ lines, line.IsCut) {line : Line} {statement : Statement} :
    (line, statement) ∈ lines.zip statements ↔ line ∈ lines ∧ line.Means statement := by
  simp only [List.mem_iff_getElem?, getElem?_zip_iff_means meanings cut, exists_and_right]

theorem mem_take_zip_iff_means (meanings : List.Forall₂ Line.Means lines statements)
    (cut : ∀ line ∈ lines, line.IsCut) (index : Nat) {line : Line} {statement : Statement} :
    (line, statement) ∈ (lines.zip statements).take index ↔
      line ∈ lines.take index ∧ line.Means statement := by
  simp only [List.zip, List.take_zipWith]
  exact mem_zip_iff_means (List.forall₂_take index meanings)
    (fun line member => cut line (List.mem_of_mem_take member))

theorem declares_iff (meanings : List.Forall₂ Line.Means lines statements)
    (cut : ∀ line ∈ lines, line.IsCut) {name : String} :
    Declares lines name ↔ name ∈ declaredNames statements := by
  rw [← map_snd_zip_of_means meanings, declaredNames, List.mem_filterMap]
  simp only [List.mem_map, Prod.exists, exists_eq_right]
  constructor
  · rintro ⟨line, member, meaning⟩
    exact ⟨.label name, ⟨line, (mem_zip_iff_means meanings cut).mpr ⟨member, meaning⟩⟩, rfl⟩
  · rintro ⟨statement, ⟨line, member⟩, declares⟩
    cases statement with
    | act opcode operand => cases declares
    | label other =>
        cases declares
        exact ⟨line, (mem_zip_iff_means meanings cut).mp member⟩

theorem Pending.resolve_eq_error_iff {draft : Draft} {pending : Pending} {failure : Failure} :
    pending.resolve draft.marks = .error failure ↔
      ∃ name, pending.operand = .label name ∧ name ∉ draft.marks.keys ∧
        failure = (Refusal.complaint (.undeclared name)).on pending.line := by
  unfold Pending.resolve
  cases pending.operand with
  | nothing => simp
  | tile address => simp
  | label name =>
      have unknown := Table.find?_eq_none_iff draft.marks name
      cases found : draft.marks.find? name <;>
        simp [found, ← unknown, Refusal.on, eq_comm (b := failure)]

theorem Draft.resolve_eq_error_iff (draft : Draft) {failure : Failure} :
    draft.resolve = .error failure ↔
      draft.pending.toList.mapM (Pending.resolve draft.marks) = .error failure := by
  unfold Draft.resolve
  cases draft.pending.toList.mapM (Pending.resolve draft.marks) <;>
    simp [bind, Except.bind, pure, Except.pure]

/-- The second pass fails exactly at the first jump to a name that no line declares. -/
theorem resolve_absorb_eq_error_iff (meanings : List.Forall₂ Line.Means lines statements)
    (cut : ∀ line ∈ lines, line.IsCut) (distinct : (declaredNames statements).Nodup)
    {failure : Failure} :
    (Draft.empty.absorb (lines.zip statements)).resolve = .error failure ↔
      ∃ (index : Nat) (line : Line) (opcode : Opcode) (name : String),
        lines[index]? = some line ∧ line.Means (.act opcode (.label name)) ∧
        ¬Declares lines name ∧
        (∀ earlier ∈ lines.take index, ∀ opcode name,
          earlier.Means (.act opcode (.label name)) → Declares lines name) ∧
        failure = (Refusal.complaint (.undeclared name)).on line := by
  obtain ⟨-, keys, pending⟩ := absorb_empty meanings distinct
  rw [Draft.resolve_eq_error_iff, pending, mapM_filterMap_eq_error_iff]
  simp only [Pending.resolve_eq_error_iff, Pending.resolve_eq_ok_iff, keys,
    ← declares_iff meanings cut]
  constructor
  · rintro ⟨index, ⟨line, statement⟩, part, here, given, ⟨name, jumps, missing, same⟩, fine⟩
    obtain ⟨place, meaning⟩ := (getElem?_zip_iff_means meanings cut).mp here
    cases statement with
    | label other => cases given
    | act opcode operand =>
        cases given
        simp only at jumps same
        rw [jumps] at meaning
        refine ⟨index, line, opcode, name, place, meaning, missing, ?_, same⟩
        intro earlier member opcode name jumps
        have listed := (mem_take_zip_iff_means meanings cut index).mpr ⟨member, jumps⟩
        obtain ⟨result, known, -⟩ := fine _ listed ⟨opcode, .label name, earlier⟩ rfl
        exact known name rfl
  · rintro ⟨index, line, opcode, name, here, jumps, missing, declared, same⟩
    refine ⟨index, (line, .act opcode (.label name)), _,
      (getElem?_zip_iff_means meanings cut).mpr ⟨here, jumps⟩, rfl, ⟨name, rfl, missing, same⟩, ?_⟩
    rintro ⟨earlier, statement⟩ member part given
    obtain ⟨before, meaning⟩ := (mem_take_zip_iff_means meanings cut index).mp member
    cases statement with
    | label other => cases given
    | act opcode operand =>
        cases given
        refine ⟨_, fun name jumps => ?_, rfl⟩
        simp only at jumps
        rw [jumps] at meaning
        exact declared earlier before opcode name meaning

end Resolve

/-- The reader reports the failure of the first pass, or else what the second pass gives. -/
theorem read_eq (source : String) :
    read source = match (Draft.empty.addAll (retainedLines source)).2 with
      | some failure => .error failure
      | none => (Draft.empty.addAll (retainedLines source)).1.resolve := by
  unfold read Reader.read
  split
  · rename_i draft done
    have same : Draft.empty.addAll (retainedLines source) = (draft, none) := done
    rw [same]
  · rename_i draft failure stopped
    have same : Draft.empty.addAll (retainedLines source) = (draft, some failure) := stopped
    rw [same]

/-- A script is rejected exactly with the refusal of the line that its lines are blamed on. -/
theorem read_eq_error_iff {source : String} {failure : Failure} :
    read source = .error failure ↔
      ∃ index line refusal, Blames (retainedLines source) index line refusal ∧
        failure = refusal.on line := by
  have cut (line : Line) (member : line ∈ retainedLines source) : line.IsCut :=
    isCut_of_mem_retainedLines member
  obtain ⟨passes, trips⟩ := Draft.addAll_iff cut
    (fun _ => inked_of_mem_retainedLines) Draft.knows_empty
  rw [read_eq]
  cases first : (Draft.empty.addAll (retainedLines source)).2 with
  | some other =>
      have failed : ¬Pass [] (retainedLines source) := by
        rw [← passes, first]
        simp
      have same : Except.error other = (.error failure : Except Failure Program) ↔
          Trips [] (retainedLines source) failure := by
        rw [← trips, first]
        simp
      refine same.trans ⟨?_, ?_⟩
      · rintro ⟨index, line, refusal, here, passed, breaks, told⟩
        exact ⟨index, line, refusal, .breaks here passed breaks, told⟩
      · rintro ⟨index, line, refusal, blames, told⟩
        cases blames with
        | breaks here passed breaks => exact ⟨index, line, refusal, here, passed, breaks, told⟩
        | undeclared _ passed => exact absurd passed failed
  | none =>
      have passed := passes.mp first
      obtain ⟨statements, meanings, distinct, absorbed⟩ :=
        (Draft.addAll_eq_none_iff cut Draft.empty _).mp (Prod.ext rfl first)
      simp only [absorbed]
      rw [resolve_absorb_eq_error_iff meanings cut distinct]
      constructor
      · rintro ⟨index, line, opcode, name, here, jumps, missing, declared, told⟩
        exact ⟨index, line, _, .undeclared here passed declared jumps missing, told⟩
      · rintro ⟨index, line, refusal, blames, told⟩
        cases blames with
        | breaks here _ breaks => exact absurd breaks (passed index line here _)
        | undeclared here _ declared jumps missing =>
            exact ⟨index, line, _, _, here, jumps, missing, declared, told⟩

/-- A script is rejected for the first line that breaks a rule, or else for the first jump to an
undeclared name. The report has the physical number and the trimmed text of the line, and what
comes behind a line that breaks a rule does not change the report. -/
theorem read_reports_first_mistake (source : String) :
    (∀ failure, read source = .error failure ↔
      ∃ index line refusal, Blames (obeyedLines source) index line refusal ∧
        failure = refusal.on line) ∧
    (∀ line ∈ obeyedLines source, 1 ≤ line.number ∧
      ∃ raw, (Text.lines source.toList)[line.number - 1]? = some raw ∧
        line.text = String.ofList (Text.trim raw)) ∧
    ∀ first rest other, source = first ++ rest → Text.EndsLine first.toList →
      ∀ (index : Nat) (line : Line) (refusal : Refusal), (obeyedLines source)[index]? = some line →
        Pass [] ((obeyedLines source).take index) →
        line.Breaks ((obeyedLines source).take index) refusal →
        line.number ≤ (physicalLines first).length →
        read (first ++ other) = .error (refusal.on line) := by
  simp only [← retainedLines_eq_obeyedLines]
  refine ⟨fun failure => read_eq_error_iff, ?_, ?_⟩
  · intro line member
    exact exists_raw_of_mem_physicalLines ((retainedLines_sublist source).subset member)
  · intro first rest other split ends index line refusal here passed breaks inside
    rw [split] at here passed breaks
    obtain ⟨place, front⟩ := getElem?_retainedLines_append ends here inside other
    rw [← front] at passed breaks
    exact read_eq_error_iff.mpr ⟨index, line, refusal, .breaks place passed breaks, rfl⟩

/-- This script declares a name a second time behind a blank line and a comment. -/
def twiceDeclared : String := "a:\nINBOX\n\n-- again\n  a:\n"

theorem read_reports_first_mistake_twiceDeclared :
    read (twiceDeclared ++ "JUMP nowhere") =
      .error (.rejected ⟨.duplicateLabel, "label 'a' already declared on line 1", 5, "a:"⟩) := by
  obtain ⟨-, -, unchanged⟩ := read_reports_first_mistake (twiceDeclared ++ "FLY\n")
  let first : Line := ⟨1, "a:", ["a:"]⟩
  let again : Line := ⟨5, "a:", ["a:"]⟩
  have lines : obeyedLines (twiceDeclared ++ "FLY\n") =
      [first, ⟨2, "INBOX", ["INBOX"]⟩, again, ⟨6, "FLY", ["FLY"]⟩] := by
    decide +kernel
  have front : (obeyedLines (twiceDeclared ++ "FLY\n")).take 2 =
      [first, ⟨2, "INBOX", ["INBOX"]⟩] := by
    rw [lines]
    rfl
  have passed : Pass [] ((obeyedLines (twiceDeclared ++ "FLY\n")).take 2) := by
    rw [← retainedLines_eq_obeyedLines]
    refine (Draft.addAll_iff ?_ ?_ Draft.knows_empty).1.mp (by decide +kernel)
    · intro line member
      exact isCut_of_mem_retainedLines (List.mem_of_mem_take member)
    · intro line member
      exact inked_of_mem_retainedLines (List.mem_of_mem_take member)
  have repeated : again.Breaks ((obeyedLines (twiceDeclared ++ "FLY\n")).take 2)
      (.complaint (.declaredBefore "a" 1)) := by
    have declared : first.Means (.label "a") := .declaration "a" (by decide) (by decide)
    rw [front]
    exact .repeated (by simp) declared (.declaration "a" (by decide) (by decide))
  have ends : Text.EndsLine twiceDeclared.toList := ⟨'\n', by decide, by decide⟩
  exact unchanged twiceDeclared "FLY\n" "JUMP nowhere" rfl ends 2 again _ (by rw [lines]; rfl)
    passed repeated (by decide +kernel)

end OfficeMachine.Script
