/-
This file shows what the generated landmarks of a listing are. Each jump target without a label
gets exactly one of them, and their names differ from each other and from all declared names.
-/

import Mathlib.Data.List.Nodup
import Mathlib.Data.List.Perm.Subperm
import OfficeMachine.Program.Listing
import OfficeMachine.Proofs.Script.Grammar

namespace OfficeMachine

theorem toList_generatedName (number : Nat) :
    (generatedName number).toList = 'L' :: Nat.toDigits 10 number := by
  change ("L" ++ toString number).toList = _
  rw [String.toList_append, Nat.toString_eq_ofList_toDigits, String.toList_ofList]
  simp

theorem generatedName_injective : Function.Injective generatedName := by
  intro first second same
  have digits := congrArg String.toList same
  rw [toList_generatedName, toList_generatedName] at digits
  have values := congrArg Numeral.value (List.cons.inj digits).2
  rwa [Numeral.value_toDigits, Numeral.value_toDigits] at values

theorem isName_generatedName (number : Nat) :
    Script.isName (generatedName number).toList = true := by
  have digits := Script.isName_of_isDigits (Numeral.isDigits_toDigits number)
  simp only [Script.isName, Bool.and_eq_true, List.all_eq_true] at digits
  rw [toList_generatedName]
  simp only [Script.isName, List.isEmpty_cons, Bool.not_false, Bool.true_and, List.all_eq_true]
  intro character member
  rcases List.mem_cons.mp member with first | later
  · rw [first]
    decide
  · exact digits.2 character later

/-- Among more candidates than taken names one is free. -/
theorem freshNumber_not_mem (taken : List String) (start : Nat) :
    generatedName (freshNumber taken start) ∉ taken := by
  let candidates := (List.range (taken.length + 1)).map (start + ·)
  cases found : candidates.find? fun number => decide (generatedName number ∉ taken) with
  | some number =>
      have free := List.find?_some found
      have chosen : freshNumber taken start = number := by
        change (candidates.find? _).getD start = number
        rw [found]
        rfl
      rw [chosen]
      simpa using free
  | none =>
      exfalso
      have occupied : ∀ number ∈ candidates, generatedName number ∈ taken := by
        simpa using List.find?_eq_none.mp found
      have shifted : candidates.Nodup :=
        List.Nodup.map (fun _ _ same => Nat.add_left_cancel same) List.nodup_range
      have distinct : (candidates.map generatedName).Nodup :=
        List.Nodup.map generatedName_injective shifted
      have inside : candidates.map generatedName ⊆ taken := by
        intro name member
        obtain ⟨number, candidate, same⟩ := List.mem_map.mp member
        rw [← same]
        exact occupied number candidate
      have bound := (distinct.subperm inside).length_le
      simp only [candidates, List.length_map, List.length_range] at bound
      omega

/-- The generated landmarks complete the declared ones if they mark exactly the targets of the
instructions that had no mark, each of them once and under a fresh generated name. -/
structure Completes (declared generated : List Landmark) (instructions : List Instruction) :
    Prop where
  numbered : ∀ landmark ∈ generated, ∃ number, landmark.1 = generatedName number
  distinct : (generated.map Prod.fst).Nodup
  fresh : ∀ landmark ∈ generated, landmark.1 ∉ declared.map Prod.fst
  once : (generated.map Prod.snd).Nodup
  marked : ∀ index, index ∈ generated.map Prod.snd ↔
    index ∉ declared.map Prod.snd ∧
      ∃ instruction ∈ instructions, ∃ target : Nat, instruction.target = some target ∧ index = target

theorem completes_nothing (declared : List Landmark) : Completes declared [] [] where
  numbered := by simp
  distinct := by simp
  fresh := by simp
  once := by simp
  marked := by simp

/-- The order of the declared landmarks does not matter. -/
theorem Completes.perm {declared other generated : List Landmark}
    {instructions : List Instruction} (completes : Completes declared generated instructions)
    (same : List.Perm declared other) : Completes other generated instructions where
  numbered := completes.numbered
  distinct := completes.distinct
  fresh := by
    intro landmark member taken
    exact completes.fresh landmark member ((same.map Prod.fst).mem_iff.mpr taken)
  once := completes.once
  marked := by
    intro index
    rw [completes.marked index, (same.map Prod.snd).mem_iff]

/-- A visit that finds its target marked changes nothing. -/
theorem Completes.keep {declared generated : List Landmark} {visited : List Instruction}
    (completes : Completes declared generated visited) {instruction : Instruction}
    (known : ∀ target : Nat, instruction.target = some target →
      (target : Int) ∈ (declared ++ generated).map Prod.snd) :
    Completes declared generated (visited ++ [instruction]) where
  numbered := completes.numbered
  distinct := completes.distinct
  fresh := completes.fresh
  once := completes.once
  marked := by
    intro index
    rw [completes.marked index]
    constructor
    · intro given
      obtain ⟨unlabelled, other, member, jumps⟩ := given
      exact ⟨unlabelled, other, by simp [member], jumps⟩
    · intro given
      obtain ⟨unlabelled, other, member, target, jumps, same⟩ := given
      rcases List.mem_append.mp member with before | now
      · exact ⟨unlabelled, other, before, target, jumps, same⟩
      · rw [List.mem_singleton.mp now] at jumps
        have marked := known target jumps
        rw [List.map_append, List.mem_append, ← same] at marked
        rcases marked with labelled | generatedAlready
        · exact absurd labelled unlabelled
        · exact (completes.marked index).mp generatedAlready

/-- A visit that finds its target unmarked marks it under a free name. -/
theorem Completes.extend {declared generated : List Landmark} {visited : List Instruction}
    (completes : Completes declared generated visited) {instruction : Instruction} {target : Nat}
    (jumps : instruction.target = some target)
    (unmarked : (target : Int) ∉ (declared ++ generated).map Prod.snd) {number : Nat}
    (free : generatedName number ∉ (declared ++ generated).map Prod.fst) :
    Completes declared (generated ++ [(generatedName number, (target : Int))])
      (visited ++ [instruction]) := by
  rw [List.map_append, List.mem_append, not_or] at unmarked free
  refine ⟨?_, ?_, ?_, ?_, ?_⟩
  · intro landmark member
    rcases List.mem_append.mp member with old | new
    · exact completes.numbered landmark old
    · exact ⟨number, by rw [List.mem_singleton.mp new]⟩
  · rw [List.map_append, List.nodup_append]
    refine ⟨completes.distinct, by simp, ?_⟩
    intro name old other new same
    have last : other = generatedName number := by simpa using new
    rw [same, last] at old
    exact free.2 old
  · intro landmark member
    rcases List.mem_append.mp member with old | new
    · exact completes.fresh landmark old
    · rw [List.mem_singleton.mp new]
      exact free.1
  · rw [List.map_append, List.nodup_append]
    refine ⟨completes.once, by simp, ?_⟩
    intro index old other new same
    have last : other = (target : Int) := by simpa using new
    rw [same, last] at old
    exact unmarked.2 old
  · intro index
    rw [List.map_append, List.mem_append, completes.marked index, List.map_singleton,
      List.mem_singleton]
    constructor
    · rintro (⟨unlabelled, other, member, goes⟩ | same)
      · exact ⟨unlabelled, other, by simp [member], goes⟩
      · rw [same]
        exact ⟨unmarked.1, instruction, by simp, target, jumps, rfl⟩
    · intro given
      obtain ⟨unlabelled, other, member, goal, goes, same⟩ := given
      rcases List.mem_append.mp member with before | now
      · exact Or.inl ⟨unlabelled, other, before, goal, goes, same⟩
      · rw [List.mem_singleton.mp now, jumps] at goes
        right
        rw [same, ← Option.some.inj goes]

/-- Each visit keeps the landmarks of a naming complete. -/
theorem Naming.completes_visit {naming : Naming} {declared generated : List Landmark}
    {visited : List Instruction} (split : naming.landmarks = declared ++ generated)
    (completes : Completes declared generated visited) (instruction : Instruction) :
    ∃ more, (naming.visit instruction).landmarks = declared ++ more ∧
      Completes declared more (visited ++ [instruction]) := by
  unfold Naming.visit
  split
  · rename_i none
    refine ⟨generated, split, completes.keep ?_⟩
    intro target jumps
    rw [none] at jumps
    cases jumps
  · rename_i target jumps
    split
    · rename_i found
      obtain ⟨landmark, member, same⟩ := List.any_eq_true.mp found
      refine ⟨generated, split, completes.keep ?_⟩
      intro other goes
      rw [jumps] at goes
      rw [← split, ← Option.some.inj goes, ← of_decide_eq_true same]
      exact List.mem_map_of_mem member
    · rename_i missing
      have unmarked : (target : Int) ∉ (declared ++ generated).map Prod.snd := by
        intro marked
        rw [← split] at marked
        obtain ⟨landmark, member, same⟩ := List.mem_map.mp marked
        exact missing (List.any_eq_true.mpr ⟨landmark, member, decide_eq_true same⟩)
      have free := freshNumber_not_mem (naming.landmarks.map Prod.fst) naming.next
      rw [split] at free
      refine ⟨_, ?_, completes.extend jumps unmarked free⟩
      simp only [split, List.append_assoc]

theorem Naming.completes_foldl (instructions : List Instruction) {naming : Naming}
    {declared generated : List Landmark} {visited : List Instruction}
    (split : naming.landmarks = declared ++ generated)
    (completes : Completes declared generated visited) :
    ∃ more, (instructions.foldl Naming.visit naming).landmarks = declared ++ more ∧
      Completes declared more (visited ++ instructions) := by
  induction instructions generalizing naming generated visited with
  | nil => exact ⟨generated, split, by rwa [List.append_nil]⟩
  | cons instruction rest inductionHypothesis =>
      obtain ⟨more, next, completed⟩ := naming.completes_visit split completes instruction
      obtain ⟨final, last, done⟩ := inductionHypothesis next completed
      refine ⟨final, last, ?_⟩
      rwa [List.append_assoc] at done

/-- The landmarks of a program are its declared ones and those that complete them. -/
theorem Program.exists_landmarks (program : Program) :
    ∃ generated, program.landmarks = program.declaredLandmarks ++ generated ∧
      Completes program.labels.entries generated program.instructions.toList := by
  have start : (⟨0, program.declaredLandmarks⟩ : Naming).landmarks =
      program.declaredLandmarks ++ [] := (List.append_nil _).symm
  obtain ⟨generated, split, completes⟩ :=
    Naming.completes_foldl program.instructions.toList start (completes_nothing _)
  refine ⟨generated, ?_, completes.perm (List.mergeSort_perm _ _)⟩
  rw [Program.landmarks, ← Array.foldl_toList]
  exact split

end OfficeMachine
