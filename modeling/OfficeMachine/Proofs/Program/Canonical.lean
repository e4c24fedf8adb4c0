/-
This file shows that a listing is a canonical form. It depends only on the actions of a program and on
what its labels mark, and the program that is read from it has the same listing.
-/

import Mathlib.Data.List.Perm.Basic
import OfficeMachine.Proofs.Program.RoundTrip
import OfficeMachine.Proofs.Table

namespace OfficeMachine

open Script

namespace Landmark

variable {first second third : Landmark}

theorem precedes_iff : first.precedes second = true ↔
    first.2 < second.2 ∨ first.2 = second.2 ∧ first.1 ≤ second.1 := by
  simp [precedes]

theorem precedes_trans (before : first.precedes second = true)
    (behind : second.precedes third = true) : first.precedes third = true := by
  rw [precedes_iff] at before behind ⊢
  rcases before with lower | ⟨same, name⟩
  · left
    omega
  · rcases behind with lower | ⟨sameToo, nameToo⟩
    · left
      omega
    · exact Or.inr ⟨same.trans sameToo, String.le_trans name nameToo⟩

theorem precedes_total (first second : Landmark) :
    (first.precedes second || second.precedes first) = true := by
  rw [Bool.or_eq_true, precedes_iff, precedes_iff]
  rcases Int.lt_trichotomy first.2 second.2 with lower | same | higher
  · exact Or.inl (Or.inl lower)
  · rcases String.le_total first.1 second.1 with name | name
    · exact Or.inl (Or.inr ⟨same, name⟩)
    · exact Or.inr (Or.inr ⟨same.symm, name⟩)
  · exact Or.inr (Or.inl higher)

theorem precedes_antisymm (before : first.precedes second = true)
    (behind : second.precedes first = true) : first = second := by
  rw [precedes_iff] at before behind
  have sameIndex : first.2 = second.2 := by omega
  have sameName : first.1 = second.1 := by
    rcases before with lower | ⟨-, name⟩
    · omega
    · rcases behind with lower | ⟨-, nameToo⟩
      · omega
      · exact String.le_antisymm name nameToo
  exact Prod.ext sameName sameIndex

/-- Landmarks can be put in order in one way only. -/
theorem eq_of_perm {landmarks others : List Landmark} (perm : landmarks.Perm others)
    (sorted : landmarks.Pairwise fun first second => first.precedes second = true)
    (sortedToo : others.Pairwise fun first second => first.precedes second = true) :
    landmarks = others :=
  perm.eq_of_pairwise (fun _ _ _ _ => precedes_antisymm) sorted sortedToo

end Landmark

section Listing

variable {first second : Program} {landmarks others : List Landmark}

theorem Program.pairwise_declaredLandmarks (program : Program) :
    program.declaredLandmarks.Pairwise fun first second => first.precedes second = true :=
  @List.pairwise_mergeSort _ Landmark.precedes (fun _ _ _ => Landmark.precedes_trans)
    Landmark.precedes_total program.labels.entries

/-- The declared landmarks do not depend on the order of the declarations. -/
theorem declaredLandmarks_eq_of_perm (perm : first.labels.entries.Perm second.labels.entries) :
    first.declaredLandmarks = second.declaredLandmarks := by
  refine Landmark.eq_of_perm ?_ first.pairwise_declaredLandmarks second.pairwise_declaredLandmarks
  exact (List.mergeSort_perm _ _).trans (perm.trans (List.mergeSort_perm _ _).symm)

/-- The names do not depend on the lines of the instructions. -/
theorem Program.landmarks_eq_foldl_actions (program : Program) :
    program.landmarks =
      (program.actions.foldl Naming.visit ⟨0, program.declaredLandmarks⟩).landmarks := by
  rw [landmarks, ← Array.foldl_toList, actions, List.foldl_map]
  rfl

theorem listingBody_map_unplaced (landmarks : List Landmark) (index : Nat)
    (instructions : List Instruction) :
    listingBody landmarks index (instructions.map Instruction.unplaced) =
      listingBody landmarks index instructions := by
  induction instructions generalizing index with
  | nil => rfl
  | cons instruction rest inductionHypothesis =>
      rw [List.map_cons, listingBody, listingBody, inductionHypothesis]
      rfl

/-- A listing is determined by its body. -/
theorem listing_eq_of_body
    (same : listingBody first.landmarks 0 first.actions =
      listingBody second.landmarks 0 second.actions) : first.listing = second.listing := by
  rw [Program.actions, Program.actions, listingBody_map_unplaced, listingBody_map_unplaced] at same
  rw [Program.listing, Program.listing, Program.listingLines, Program.listingLines, same]

/-- Programs that agree have the same listing if their labels mark the same. -/
theorem listing_eq_of_agrees (agree : first.Agrees second)
    (perm : first.labels.entries.Perm second.labels.entries) : first.listing = second.listing := by
  have sameActions : first.actions = second.actions := agree
  apply listing_eq_of_body
  rw [Program.landmarks_eq_foldl_actions, Program.landmarks_eq_foldl_actions, sameActions,
    declaredLandmarks_eq_of_perm perm]

/-- The body of a listing depends only on the names of the indices in the program. -/
theorem listingBody_eq {size : Nat}
    (same : ∀ index : Nat, index ≤ size → namesAt landmarks index = namesAt others index)
    {instructions : List Instruction}
    (inside : ∀ instruction ∈ instructions, ∀ target, instruction.target = some target →
      target ≤ size) {index : Nat} (fits : index + instructions.length ≤ size) :
    listingBody landmarks index instructions = listingBody others index instructions := by
  induction instructions generalizing index with
  | nil => rw [listingBody, listingBody, labelLines, labelLines, same index (by simpa using fits)]
  | cons instruction rest inductionHypothesis =>
      rw [List.length_cons] at fits
      have line : instructionLine landmarks instruction = instructionLine others instruction := by
        unfold instructionLine
        cases address : instruction.address with
        | some address => rfl
        | none =>
            cases jumps : instruction.target with
            | none => rfl
            | some target =>
                simp only [same target (inside instruction List.mem_cons_self target jumps)]
      rw [listingBody, listingBody, labelLines, labelLines, same index (by omega), line,
        inductionHypothesis (fun other member => inside other (List.mem_cons_of_mem _ member))
          (by omega)]

end Listing

/-- Nothing is generated for targets that all have a mark. -/
theorem Completes.eq_nil {declared generated : List Landmark} {instructions : List Instruction}
    (completes : Completes declared generated instructions)
    (marked : ∀ instruction ∈ instructions, ∀ target : Nat, instruction.target = some target →
      (target : Int) ∈ declared.map Prod.snd) : generated = [] := by
  rw [List.eq_nil_iff_forall_not_mem]
  intro landmark member
  obtain ⟨unmarked, instruction, listed, target, jumps, same⟩ :=
    (completes.marked landmark.2).mp (List.mem_map_of_mem member)
  rw [same] at unmarked
  exact unmarked (marked instruction listed target jumps)

/-- At each index the landmarks of a program are in order. They are declared, or there is at most one
and it is generated. -/
theorem Program.pairwise_landmarks_at (program : Program) (index : Int) :
    (program.landmarks.filter fun landmark => landmark.2 = index).Pairwise
      fun first second => first.precedes second = true := by
  obtain ⟨generated, split, completes⟩ := program.exists_landmarks
  have sorted := program.pairwise_declaredLandmarks.filter fun landmark => landmark.2 = index
  rw [split, List.filter_append]
  by_cases declared : index ∈ program.labels.entries.map Prod.snd
  · have nothing : (generated.filter fun landmark => landmark.2 = index) = [] := by
      rw [List.filter_eq_nil_iff]
      intro landmark member same
      have made := List.mem_map_of_mem (f := Prod.snd) member
      rw [of_decide_eq_true same, completes.marked] at made
      exact made.1 declared
    rwa [nothing, List.append_nil]
  · have nothing : (program.declaredLandmarks.filter fun landmark => landmark.2 = index) = [] := by
      rw [List.filter_eq_nil_iff]
      intro landmark member same
      rw [← of_decide_eq_true same] at declared
      exact declared (List.mem_map_of_mem ((List.mergeSort_perm _ _).mem_iff.mp member))
    rw [nothing, List.nil_append]
    have once : generated.Pairwise fun first second => first.2 ≠ second.2 :=
      List.pairwise_map.mp completes.once
    refine (once.filter _).imp_of_mem ?_
    intro landmark other member memberToo different
    have same : landmark.2 = index := of_decide_eq_true (List.mem_filter.mp member).2
    have sameToo : other.2 = index := of_decide_eq_true (List.mem_filter.mp memberToo).2
    exact absurd (same.trans sameToo.symm) different

/-- Two programs have the same names at an index if they have the same landmarks there. -/
theorem namesAt_eq_of_perm {first second : Program} {index : Int}
    (perm : (first.landmarks.filter fun landmark => landmark.2 = index).Perm
      (second.landmarks.filter fun landmark => landmark.2 = index)) :
    namesAt first.landmarks index = namesAt second.landmarks index := by
  have same := Landmark.eq_of_perm perm (first.pairwise_landmarks_at index)
    (second.pairwise_landmarks_at index)
  rw [namesAt, namesAt, same]

/-- Each target of a program is one of any program that agrees. -/
theorem Program.Agrees.exists_target {first second : Program} (agree : first.Agrees second)
    {instruction : Instruction} (member : instruction ∈ first.instructions.toList) {target : Nat}
    (jumps : instruction.target = some target) :
    ∃ other ∈ second.instructions.toList, other.target = some target := by
  have action : instruction.unplaced ∈ first.actions := List.mem_map_of_mem member
  rw [show first.actions = second.actions from agree] at action
  obtain ⟨other, listed, same⟩ := List.mem_map.mp action
  have sameTarget : other.unplaced.target = instruction.unplaced.target := by rw [same]
  exact ⟨other, listed, sameTarget.trans jumps⟩

/-- Only these landmarks are written into a listing. -/
def Program.landmarksInRange (program : Program) : List Landmark :=
  program.landmarks.filter fun landmark => 0 ≤ landmark.2 ∧ landmark.2 ≤ (program.size : Int)

section Reread

variable {program reread : Program} (agree : reread.Agrees program)
variable (labels : reread.labels.entries.Perm program.landmarksInRange)
include agree labels

/-- A program whose labels are the landmarks of another one has them for all of its targets, so that
no name is generated for it. -/
theorem landmarks_perm_landmarksInRange (wellFormed : program.WellFormed)
    (serves : Serves program.landmarks program.instructions.toList) :
    reread.landmarks.Perm program.landmarksInRange := by
  obtain ⟨generated, split, completes⟩ := reread.exists_landmarks
  have nothing : generated = [] := by
    apply completes.eq_nil
    intro instruction member target jumps
    obtain ⟨other, listed, sameTarget⟩ := agree.exists_target member jumps
    obtain ⟨landmark, present, same⟩ :=
      List.mem_map.mp (serves.marked other listed target sameTarget)
    have bound := (wellFormed other listed).target_le sameTarget
    rw [← same]
    refine List.mem_map_of_mem (labels.mem_iff.mpr (List.mem_filter.mpr ⟨present, ?_⟩))
    rw [decide_eq_true_eq, same]
    exact ⟨Int.natCast_nonneg target, Int.ofNat_le.mpr bound⟩
  rw [split, nothing, List.append_nil]
  exact (List.mergeSort_perm _ _).trans labels

theorem namesAt_reread (wellFormed : program.WellFormed)
    (serves : Serves program.landmarks program.instructions.toList) {index : Nat}
    (inside : index ≤ program.size) :
    namesAt reread.landmarks index = namesAt program.landmarks index := by
  have landmarks := landmarks_perm_landmarksInRange agree labels wellFormed serves
  apply namesAt_eq_of_perm
  refine (landmarks.filter _).trans (List.Perm.of_eq ?_)
  rw [Program.landmarksInRange, List.filter_filter]
  apply List.filter_congr
  intro landmark _
  have bound : (index : Int) ≤ program.size := Int.ofNat_le.mpr inside
  simp only [← Bool.decide_and, decide_eq_decide]
  omega

theorem listing_reread (wellFormed : program.WellFormed)
    (serves : Serves program.landmarks program.instructions.toList) :
    reread.listing = program.listing := by
  have sameActions : reread.actions = program.actions := agree
  apply listing_eq_of_body
  rw [sameActions]
  apply listingBody_eq fun index inside => namesAt_reread agree labels wellFormed serves inside
  · intro instruction member target jumps
    obtain ⟨other, listed, same⟩ := List.mem_map.mp member
    rw [← same] at jumps
    exact (wellFormed other listed).target_le jumps
  · rw [Nat.zero_add, Program.actions, List.length_map, Array.length_toList, Program.size]

end Reread

/-- The listing of a well-formed program is read, and the result has the same listing. -/
theorem exists_read_listing_eq {program : Program} (wellFormed : program.WellFormed)
    (named : ∀ name ∈ program.labels.keys, isName name.toList = true) :
    ∃ reread, read program.listing = .ok reread ∧ reread.listing = program.listing := by
  obtain ⟨generated, split, completes⟩ := program.exists_landmarks
  obtain ⟨reread, accepted, agree, labels⟩ := exists_read_listing split completes wellFormed named
  have marks := marks_listingStatements program.landmarks program.instructions.toList 0
  rw [← labels, Nat.zero_add, Array.length_toList] at marks
  exact ⟨reread, accepted,
    listing_reread agree marks wellFormed (serves_landmarks split completes named)⟩

end OfficeMachine
