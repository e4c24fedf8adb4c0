/-
This file keeps the loggers with their parents. A logger gets its parent when it is made, and loggers
that were made before it may get it as their parent.
-/

import OfficeMachine.Journal.Phrase
import OfficeMachine.Table

namespace OfficeMachine

/-- The walk goes through a name from its end. In front of each dot it finds a name above, and it
does not look for another dot right there. -/
def uppersFrom : List CodePoint → List (List CodePoint)
  | .dot :: last :: rest => (last :: rest) :: uppersFrom rest
  | _ :: rest => uppersFrom rest
  | [] => []

/-- The names above a name come with the longest one first. -/
def uppers (name : Phrase) : List Phrase :=
  (uppersFrom name.points.reverse).map fun upper => ⟨upper.reverse⟩

/-- A name is above another one that goes on with a dot. -/
def IsAbove (upper lower : Phrase) : Prop := upper.points ++ [.dot] <+: lower.points

instance (upper lower : Phrase) : Decidable (IsAbove upper lower) :=
  inferInstanceAs (Decidable (_ <+: _))

theorem exists_of_mem_uppersFrom {upper lower : List CodePoint} (member : upper ∈ uppersFrom lower) :
    ∃ rest, lower = rest ++ .dot :: upper := by
  fun_induction uppersFrom lower with
  | case1 last rest inductionHypothesis =>
      rcases List.mem_cons.mp member with same | further
      · exact ⟨[], by rw [same]; rfl⟩
      · obtain ⟨front, same⟩ := inductionHypothesis further
        exact ⟨.dot :: last :: front, congrArg (.dot :: last :: ·) same⟩
  | case2 character rest _ inductionHypothesis =>
      obtain ⟨front, same⟩ := inductionHypothesis member
      exact ⟨character :: front, congrArg (character :: ·) same⟩
  | case3 => cases member

theorem pairwise_uppersFrom (lower : List CodePoint) :
    (uppersFrom lower).Pairwise fun first second => second.length < first.length := by
  fun_induction uppersFrom lower with
  | case1 last rest inductionHypothesis =>
      refine List.pairwise_cons.mpr ⟨?_, inductionHypothesis⟩
      intro upper member
      obtain ⟨front, same⟩ := exists_of_mem_uppersFrom member
      rw [same]
      simp only [List.length_cons, List.length_append]
      omega
  | case2 _ _ _ inductionHypothesis => exact inductionHypothesis
  | case3 => exact .nil

theorem isAbove_of_mem_uppers {upper lower : Phrase} (member : upper ∈ uppers lower) :
    IsAbove upper lower := by
  obtain ⟨reversed, found, rfl⟩ := List.mem_map.mp member
  obtain ⟨rest, same⟩ := exists_of_mem_uppersFrom found
  refine ⟨rest.reverse, ?_⟩
  rw [← List.reverse_inj, same]
  simp

theorem IsAbove.length_lt {upper lower : Phrase} (above : IsAbove upper lower) :
    upper.points.length < lower.points.length := by
  have short := above.length_le
  rw [List.length_append, List.length_singleton] at short
  omega

theorem IsAbove.isPrefix {upper lower : Phrase} (above : IsAbove upper lower) :
    upper.points <+: lower.points :=
  (List.prefix_append _ _).trans above

theorem pairwise_uppers (name : Phrase) :
    (uppers name).Pairwise fun first second => second.points.length < first.points.length := by
  rw [uppers, List.pairwise_map]
  exact (pairwise_uppersFrom _).imp fun shorter => by simpa using shorter

/-- The root has this name. -/
def rootName : Phrase := "root"

/-- A logger has no parent but the root if none is stored. -/
def parentName (parent : Option Phrase) : Phrase := parent.getD rootName

/-- A hierarchy keeps the parents of the known loggers. No known logger whose name is looked for is
nearer than the parent, unless the name of the parent starts with its name. -/
structure Hierarchy where
  parents : Table Phrase (Option Phrase)
  above : ∀ lower upper, parents.find? lower = some (some upper) →
    IsAbove upper lower ∧ (parents.find? upper).isSome = true
  nearest : ∀ lower parent upper, parents.find? lower = some parent → upper ∈ uppers lower →
    (parents.find? upper).isSome = true → upper.points <+: (parentName parent).points

namespace Hierarchy

def empty : Hierarchy where
  parents := Table.empty
  above := fun _ _ found => nomatch found
  nearest := fun _ _ _ found => nomatch found

def isKnown (hierarchy : Hierarchy) (name : Phrase) : Bool :=
  (hierarchy.parents.find? name).isSome

/-- The first known logger above a new one becomes its parent. -/
def parentFor (hierarchy : Hierarchy) (name : Phrase) : Option Phrase :=
  (uppers name).find? hierarchy.isKnown

/-- A new logger becomes the parent of a logger that looks for it, unless the name of the old parent
starts with its name. For a few short names this is also the case under the root. -/
def adopt (name child : Phrase) (parent : Option Phrase) : Option Phrase :=
  if name ∈ uppers child ∧ ¬ name.points <+: (parentName parent).points then some name else parent

def withNew (hierarchy : Hierarchy) (name : Phrase) : Table Phrase (Option Phrase) :=
  (hierarchy.parents.mapEntries (adopt name)).put name (hierarchy.parentFor name)

theorem find?_withNew (hierarchy : Hierarchy) (name lower : Phrase) :
    (hierarchy.withNew name).find? lower =
      if name = lower then some (hierarchy.parentFor name)
      else (hierarchy.parents.find? lower).map (adopt name lower) := by
  rw [withNew, Table.find?_put, Table.find?_mapEntries]

theorem isSome_withNew_iff {hierarchy : Hierarchy} {name upper : Phrase} :
    ((hierarchy.withNew name).find? upper).isSome = true ↔
      name = upper ∨ hierarchy.isKnown upper = true := by
  rw [find?_withNew]
  split
  case isTrue same => simp [same]
  case isFalse different => simp [different, isKnown]

/-- The parent of each logger stays above it. -/
theorem above_withNew (hierarchy : Hierarchy) (name lower upper : Phrase)
    (found : (hierarchy.withNew name).find? lower = some (some upper)) :
    IsAbove upper lower ∧ ((hierarchy.withNew name).find? upper).isSome = true := by
  rw [isSome_withNew_iff]
  rw [find?_withNew] at found
  split at found
  case isTrue same =>
    subst same
    have first := Option.some.inj found
    exact ⟨isAbove_of_mem_uppers (List.mem_of_find?_eq_some first), .inr (List.find?_some first)⟩
  case isFalse =>
    obtain ⟨parent, old, kept⟩ := Option.map_eq_some_iff.mp found
    unfold adopt at kept
    split at kept
    case isTrue adopted =>
      have same := Option.some.inj kept
      exact ⟨same ▸ isAbove_of_mem_uppers adopted.1, .inl same⟩
    case isFalse =>
      obtain ⟨above, known⟩ := hierarchy.above lower upper (kept ▸ old)
      exact ⟨above, .inr known⟩

/-- No other known logger above the new one has a longer name than its parent. -/
theorem isPrefix_parentFor {hierarchy : Hierarchy} {name upper : Phrase}
    (member : upper ∈ uppers name) (known : hierarchy.isKnown upper = true) :
    upper.points <+: (parentName (hierarchy.parentFor name)).points := by
  unfold parentFor
  cases found : (uppers name).find? hierarchy.isKnown with
  | none => exact absurd known (by simpa using List.find?_eq_none.mp found upper member)
  | some parent =>
      have parentAbove := isAbove_of_mem_uppers (List.mem_of_find?_eq_some found)
      have upperAbove := isAbove_of_mem_uppers member
      refine List.prefix_of_prefix_length_le upperAbove.isPrefix parentAbove.isPrefix ?_
      obtain ⟨_, before, after, split, passed⟩ := List.find?_eq_some_iff_append.mp found
      have descending := pairwise_uppers name
      rw [split] at member descending
      rcases List.mem_append.mp member with earlier | here
      · exact absurd known (by simpa using passed upper earlier)
      · rcases List.mem_cons.mp here with same | later
        · rw [same]
          exact Nat.le_refl _
        · exact Nat.le_of_lt
            ((List.pairwise_cons.mp (List.pairwise_append.mp descending).2.1).1 upper later)

/-- The parent of each logger stays the nearest one. -/
theorem nearest_withNew (hierarchy : Hierarchy) (name lower : Phrase) (parent : Option Phrase)
    (upper : Phrase) (found : (hierarchy.withNew name).find? lower = some parent)
    (member : upper ∈ uppers lower)
    (known : ((hierarchy.withNew name).find? upper).isSome = true) :
    upper.points <+: (parentName parent).points := by
  rw [isSome_withNew_iff] at known
  rw [find?_withNew] at found
  split at found
  case isTrue same =>
    subst same
    rw [← Option.some.inj found]
    rcases known with same | known
    · exact absurd (same ▸ (isAbove_of_mem_uppers member).length_lt) (Nat.lt_irrefl _)
    · exact isPrefix_parentFor member known
  case isFalse =>
    obtain ⟨old, stored, kept⟩ := Option.map_eq_some_iff.mp found
    unfold adopt at kept
    split at kept
    case isTrue adopted =>
      rw [← kept]
      rcases known with same | known
      · rw [← same]
        exact List.prefix_refl _
      · -- Otherwise the old parent would start with the new name.
        have before := hierarchy.nearest lower old upper stored member known
        have upperAbove := (isAbove_of_mem_uppers member).isPrefix
        rcases List.prefix_or_prefix_of_prefix upperAbove (isAbove_of_mem_uppers adopted.1).isPrefix
          with shorter | longer
        · exact shorter
        · exact absurd (longer.trans before) adopted.2
    case isFalse notAdopted =>
      rw [← kept]
      rcases known with same | known
      · subst same
        exact Decidable.byContradiction fun differs => notAdopted ⟨member, differs⟩
      · exact hierarchy.nearest lower old upper stored member known

/-- The root goes by two names. -/
def isRoot (name : Phrase) : Bool := name = "" || name = rootName

/-- A logger is made unless it is the root or known already. -/
def make (hierarchy : Hierarchy) (name : Phrase) : Hierarchy :=
  if isRoot name || hierarchy.isKnown name then hierarchy
  else ⟨hierarchy.withNew name, hierarchy.above_withNew name, hierarchy.nearest_withNew name⟩

/-- A logger leads to itself and to all that its parent leads to. -/
def leads (hierarchy : Hierarchy) (upper lower : Phrase) : Bool :=
  lower = upper ||
    match _ : hierarchy.parents.find? lower with
    | some (some parent) => hierarchy.leads upper parent
    | _ => false
termination_by lower.points.length
decreasing_by exact (hierarchy.above lower parent ‹_›).1.length_lt

end Hierarchy

end OfficeMachine
