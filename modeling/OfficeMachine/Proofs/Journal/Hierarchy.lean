/-
This file tells where the parents of a logger lead. Whatever loggers are made and in whichever order, a
logger whose name goes on with one dot comes to the logger above it, unless there is a stray on its way
that stayed under the root.
-/

import Mathlib.Data.List.Infix
import OfficeMachine.Journal.Hierarchy

namespace OfficeMachine

/-- A name goes on behind another one with a dot and without a second dot. -/
def GoesOn (upper lower : Phrase) : Prop :=
  IsAbove upper lower ∧ ¬ upper.points ++ [.dot, .dot] <+: lower.points

instance (upper lower : Phrase) : Decidable (GoesOn upper lower) :=
  inferInstanceAs (Decidable (_ ∧ _))

/-- The walk comes to a name that has no second dot behind its dot, since only then the walk could pass
over it. -/
theorem mem_uppersFrom {upper : List CodePoint} (nonempty : upper ≠ []) : ∀ rest : List CodePoint,
    rest.getLast? ≠ some .dot → upper ∈ uppersFrom (rest ++ .dot :: upper)
  | [], _ => by
      obtain ⟨last, others, rfl⟩ := List.exists_cons_of_ne_nil nonempty
      simp [uppersFrom]
  | [character], single => by
      have noDot : character ≠ .dot := by simpa using single
      have first := mem_uppersFrom nonempty [] (by simp)
      simpa [uppersFrom, noDot] using first
  | first :: next :: rest, behind => by
      have lastOfNext : (next :: rest).getLast? ≠ some .dot := by simpa using behind
      -- Behind a dot the walk goes on one place later.
      by_cases dot : first = .dot
      · subst dot
        have toRest : upper ∈ uppersFrom (rest ++ .dot :: upper) := by
          apply mem_uppersFrom nonempty
          cases rest with
          | nil => simp
          | cons other others => simpa using lastOfNext
        exact List.mem_cons_of_mem _ toRest
      · have toNext := mem_uppersFrom nonempty (next :: rest) lastOfNext
        simpa [uppersFrom, dot] using toNext

section Names

variable {upper middle lower : Phrase}

theorem GoesOn.mem_uppers (goesOn : GoesOn upper lower) (nonempty : upper ≠ "") :
    upper ∈ uppers lower := by
  obtain ⟨⟨rest, same⟩, noDots⟩ := goesOn
  have reversed : lower.points.reverse = rest.reverse ++ .dot :: upper.points.reverse := by
    rw [← same]
    simp
  have oneDot : rest.reverse.getLast? ≠ some .dot := by
    rw [List.getLast?_reverse]
    intro first
    obtain ⟨others, rfl⟩ := List.head?_eq_some_iff.mp first
    exact noDots ⟨others, by rw [← same]; simp⟩
  have someReversed : upper.points.reverse ≠ [] := by
    intro empty
    exact nonempty (Phrase.ext (List.reverse_eq_nil_iff.mp empty))
  refine List.mem_map.mpr ⟨upper.points.reverse, ?_, by simp⟩
  rw [reversed]
  exact mem_uppersFrom someReversed _ oneDot

theorem IsAbove.trans (first : IsAbove upper middle) (second : IsAbove middle lower) :
    IsAbove upper lower :=
  List.IsPrefix.trans first second.isPrefix

theorem GoesOn.ne (goesOn : GoesOn upper lower) : lower ≠ upper := by
  intro same
  have shorter := goesOn.1.length_lt
  rw [same] at shorter
  exact Nat.lt_irrefl _ shorter

/-- A longer name in between goes on in the same way. -/
theorem GoesOn.between (goesOn : GoesOn upper lower) (above : IsAbove middle lower)
    (longer : upper.points <+: middle.points) (different : middle ≠ upper) :
    GoesOn upper middle := by
  have strict : upper.points.length < middle.points.length := by
    refine Nat.lt_of_le_of_ne longer.length_le fun same => different ?_
    exact Phrase.ext (longer.eq_of_length same).symm
  refine ⟨List.prefix_of_prefix_length_le goesOn.1 above.isPrefix ?_, ?_⟩
  · rw [List.length_append, List.length_singleton]
    exact strict
  · intro dots
    exact goesOn.2 (dots.trans above.isPrefix)

end Names

namespace Hierarchy

variable {hierarchy : Hierarchy} {upper lower name stray : Phrase}

/-- The name of the root has no dot. -/
theorem isRoot_eq_false_of_isAbove (above : IsAbove upper lower) : isRoot lower = false := by
  have dot : .dot ∈ lower.points := above.subset (by simp)
  unfold isRoot
  rw [Bool.or_eq_false_iff, decide_eq_false_iff_not, decide_eq_false_iff_not]
  constructor <;> intro same <;> rw [same] at dot <;> revert dot <;> decide

/-- The parents of a logger lead to no other loggers than those above it. -/
theorem isAbove_of_leads (led : hierarchy.leads upper lower = true) :
    lower = upper ∨ IsAbove upper lower := by
  fun_induction hierarchy.leads upper lower with
  | case1 lower inductionHypothesis =>
      rw [Bool.or_eq_true, decide_eq_true_eq] at led
      rcases led with same | further
      · exact .inl same
      split at further
      case h_1 parent stored =>
        have above := (hierarchy.above lower parent stored).1
        rcases inductionHypothesis parent stored further with same | upperAbove
        · exact .inr (same ▸ above)
        · exact .inr (upperAbove.trans above)
      case h_2 => cases further

theorem leads_self (hierarchy : Hierarchy) (name : Phrase) :
    hierarchy.leads name name = true := by
  rw [leads]
  simp

theorem leads_of_parent {parent : Phrase}
    (stored : hierarchy.parents.find? lower = some (some parent))
    (further : hierarchy.leads upper parent = true) : hierarchy.leads upper lower = true := by
  rw [leads]
  split
  case h_1 found =>
    obtain rfl := Option.some.inj (Option.some.inj (found.symm.trans stored))
    rw [further, Bool.or_true]
  case h_2 other => exact absurd stored (other parent)

/-- A stray of a logger stayed under the root although its name goes on behind that of the logger. -/
def IsStray (hierarchy : Hierarchy) (upper stray : Phrase) : Prop :=
  hierarchy.parents.find? stray = some none ∧ GoesOn upper stray

instance (hierarchy : Hierarchy) (upper stray : Phrase) :
    Decidable (hierarchy.IsStray upper stray) :=
  inferInstanceAs (Decidable (_ ∧ _))

/-- The parents of a known logger lead to each known logger behind whose name its own goes on, unless
they come to a stray. -/
theorem leads_of_goesOn {lower : Phrase} (nonempty : upper ≠ "")
    (known : hierarchy.isKnown upper = true) (present : hierarchy.isKnown lower = true)
    (goesOn : GoesOn upper lower)
    (noStray : ∀ stray, hierarchy.IsStray upper stray → lower ≠ stray ∧ ¬IsAbove stray lower) :
    hierarchy.leads upper lower = true := by
  obtain ⟨parent, stored⟩ := Option.isSome_iff_exists.mp present
  cases parent with
  | none => exact absurd rfl (noStray lower ⟨stored, goesOn⟩).1
  | some parent =>
      obtain ⟨above, parentKnown⟩ := hierarchy.above lower parent stored
      by_cases same : parent = upper
      · exact leads_of_parent stored (same ▸ hierarchy.leads_self parent)
      · -- The parent is nearer than the upper logger, so its own name goes on behind that one.
        have longer : upper.points <+: parent.points :=
          hierarchy.nearest lower parent upper stored (goesOn.mem_uppers nonempty) known
        refine leads_of_parent stored
          (leads_of_goesOn nonempty known parentKnown (goesOn.between above longer same) ?_)
        intro stray isStray
        obtain ⟨_, notAbove⟩ := noStray stray isStray
        exact ⟨fun isParent => notAbove (isParent ▸ above), fun before => notAbove (before.trans above)⟩
termination_by lower.points.length
decreasing_by exact above.length_lt

/-- These names are the beginnings of that of the root. -/
def rootStarts : List Phrase := ["r", "ro", "roo"]

theorem not_mem_rootStarts (root : isRoot name = true) : name ∉ rootStarts := by
  rw [isRoot, Bool.or_eq_true, decide_eq_true_eq, decide_eq_true_eq] at root
  rcases root with same | same <;> rw [same] <;> decide

/-- A hierarchy leaves a logger out if that is a stray of a logger with such a name, or below a stray of
it. -/
def LeavesOut (hierarchy : Hierarchy) (upper lower : Phrase) : Prop :=
  upper ∈ rootStarts ∧ ∃ stray ∈ hierarchy.parents.keys,
    hierarchy.IsStray upper stray ∧ (lower = stray ∨ IsAbove stray lower)

instance (hierarchy : Hierarchy) (upper lower : Phrase) :
    Decidable (hierarchy.LeavesOut upper lower) :=
  inferInstanceAs (Decidable (_ ∧ _))

/-- A logger is above all of its strays. -/
theorem not_leavesOut_self (hierarchy : Hierarchy) (name : Phrase) :
    ¬hierarchy.LeavesOut name name := by
  rintro ⟨-, stray, -, ⟨-, goesOn⟩, same | above⟩
  · exact goesOn.ne same.symm
  · exact absurd (above.length_lt.trans goesOn.1.length_lt) (Nat.lt_irrefl _)

theorem mem_rootStarts (starts : name.points <+: rootName.points) (other : isRoot name = false) :
    name ∈ rootStarts := by
  have cases : name.points ∈ rootName.points.inits := (List.mem_inits _ _).mpr starts
  have listed : rootName.points.inits =
      (["", "r", "ro", "roo", rootName] : List Phrase).map Phrase.points := by decide
  rw [listed] at cases
  simp only [List.map_cons, List.map_nil, List.mem_cons, List.not_mem_nil, or_false,
    ← Phrase.ext_iff] at cases
  rcases cases with same | same | same | same | same <;> rw [same] at other ⊢ <;> revert other <;>
    decide

theorem ne_blank_of_isRoot (other : isRoot upper = false) : upper ≠ "" := by
  intro blank
  rw [blank] at other
  cases other

/-- A known logger only has strays if the name of the root starts with its name. -/
theorem IsStray.mem_rootStarts (isStray : hierarchy.IsStray upper stray)
    (other : isRoot upper = false) (known : hierarchy.isKnown upper = true) :
    upper ∈ rootStarts := by
  have looksForIt := isStray.2.mem_uppers (ne_blank_of_isRoot other)
  exact Hierarchy.mem_rootStarts
    (hierarchy.nearest stray none upper isStray.1 looksForIt known) other

/-- The same two loggers come together in one order only. -/
example : ((empty.make "r").make "r.x").leads "r" "r.x" = true ∧
    ((empty.make "r.x").make "r").leads "r" "r.x" = false := by decide +kernel

theorem IsStray.leavesOut (isStray : hierarchy.IsStray upper stray) (short : upper ∈ rootStarts)
    (below : lower = stray ∨ IsAbove stray lower) : hierarchy.LeavesOut upper lower := by
  have listed : stray ∈ hierarchy.parents.keys := by
    apply Decidable.byContradiction
    intro missing
    have absent := (hierarchy.parents.find?_eq_none_iff stray).mpr missing
    rw [isStray.1] at absent
    cases absent
  exact ⟨short, stray, listed, isStray, below⟩

theorem isKnown_make (hierarchy : Hierarchy) (other : isRoot name = false) :
    (hierarchy.make name).isKnown name = true := by
  unfold make
  split
  case isTrue present => simpa [other] using present
  case isFalse => exact isSome_withNew_iff.mpr (.inl rfl)

theorem isKnown_make_of_isKnown (known : hierarchy.isKnown upper = true) (name : Phrase) :
    (hierarchy.make name).isKnown upper = true := by
  unfold make
  split
  case isTrue => exact known
  case isFalse => exact isSome_withNew_iff.mpr (.inr known)

/-- No logger becomes a stray of a logger that is known. -/
theorem IsStray.of_make (isStray : (hierarchy.make name).IsStray upper stray)
    (nonempty : upper ≠ "") (known : hierarchy.isKnown upper = true ∨ name = upper) :
    hierarchy.IsStray upper stray := by
  unfold make at isStray
  split at isStray
  case isTrue => exact isStray
  case isFalse =>
    obtain ⟨stored, goesOn⟩ := isStray
    refine ⟨?_, goesOn⟩
    change (hierarchy.withNew name).find? stray = some none at stored
    rw [find?_withNew] at stored
    split at stored
    case isTrue same =>
      -- A new logger finds the upper one among the known loggers.
      subst same
      have absent := List.find?_eq_none.mp (Option.some.inj stored) upper (goesOn.mem_uppers nonempty)
      rcases known with known | same
      · exact absurd known absent
      · exact absurd same goesOn.ne
    case isFalse =>
      obtain ⟨parent, old, kept⟩ := Option.map_eq_some_iff.mp stored
      unfold adopt at kept
      split at kept
      case isTrue => cases kept
      case isFalse => exact kept ▸ old

end Hierarchy

end OfficeMachine
