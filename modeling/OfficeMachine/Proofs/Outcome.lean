/-
This file takes apart computations that succeed or fail. A sequence succeeds if all its parts do,
it fails only in the ways of its parts, and two sequences match if their parts do.
-/

import Mathlib.Data.List.Forall2

namespace OfficeMachine

variable {Failed First Second : Type}

theorem bind_eq_ok_iff {first : Except Failed First} {next : First → Except Failed Second}
    {result : Second} :
    (first >>= next) = .ok result ↔ ∃ value, first = .ok value ∧ next value = .ok result := by
  cases first with
  | error failure => simp [bind, Except.bind]
  | ok value => simp [bind, Except.bind]

theorem map_eq_ok_iff {first : Except Failed First} {function : First → Second}
    {result : Second} :
    first.map function = .ok result ↔ ∃ value, first = .ok value ∧ function value = result := by
  cases first with
  | error failure => simp [Except.map]
  | ok value => simp [Except.map]

theorem mapError_eq_ok_iff {Other : Type} {first : Except Failed First} {translate : Failed → Other}
    {result : First} : first.mapError translate = .ok result ↔ first = .ok result := by
  cases first with
  | error failure => simp [Except.mapError]
  | ok value => simp [Except.mapError]

theorem mapError_eq_error_iff {Other : Type} {first : Except Failed First}
    {translate : Failed → Other} {other : Other} :
    first.mapError translate = .error other ↔
      ∃ error, first = .error error ∧ translate error = other := by
  cases first with
  | error failure => simp [Except.mapError]
  | ok value => simp [Except.mapError]

theorem mapM_eq_ok_iff (function : First → Except Failed Second) {inputs : List First}
    {outputs : List Second} :
    inputs.mapM function = .ok outputs ↔
      List.Forall₂ (fun input output => function input = .ok output) inputs outputs := by
  induction inputs generalizing outputs with
  | nil =>
      rw [List.mapM_nil, List.forall₂_nil_left_iff]
      constructor
      · intro same
        exact (Except.ok.inj same).symm
      · intro empty
        rw [empty]
        rfl
  | cons input rest inductionHypothesis =>
      rw [List.mapM_cons, bind_eq_ok_iff, List.forall₂_cons_left_iff]
      constructor
      · intro given
        obtain ⟨output, first, remains⟩ := given
        obtain ⟨others, tail, same⟩ := bind_eq_ok_iff.mp remains
        exact ⟨output, others, first, inductionHypothesis.mp tail, (Except.ok.inj same).symm⟩
      · intro given
        obtain ⟨output, others, first, tail, same⟩ := given
        refine ⟨output, first, bind_eq_ok_iff.mpr ⟨others, inductionHypothesis.mpr tail, ?_⟩⟩
        rw [same]
        rfl

/-- A computation on the parts of a list fails exactly at the first part on which it fails. -/
theorem mapM_filterMap_eq_error_iff {Source : Type} (part? : Source → Option First)
    (function : First → Except Failed Second) {sources : List Source} {failure : Failed} :
    (sources.filterMap part?).mapM function = .error failure ↔
      ∃ (index : Nat) (source : Source) (part : First), sources[index]? = some source ∧
        part? source = some part ∧ function part = .error failure ∧
        ∀ earlier ∈ sources.take index, ∀ part, part? earlier = some part →
          ∃ result, function part = .ok result := by
  induction sources with
  | nil =>
      rw [List.filterMap_nil, List.mapM_nil]
      simp [pure, Except.pure]
  | cons source rest inductionHypothesis =>
      -- The first source fails itself, or the failure lies behind it.
      have split : (∃ (index : Nat) (other : Source) (part : First),
          (source :: rest)[index]? = some other ∧ part? other = some part ∧
          function part = .error failure ∧
          ∀ earlier ∈ (source :: rest).take index, ∀ part, part? earlier = some part →
            ∃ result, function part = .ok result) ↔
          (∃ part, part? source = some part ∧ function part = .error failure) ∨
          ((∀ part, part? source = some part → ∃ result, function part = .ok result) ∧
            (rest.filterMap part?).mapM function = .error failure) := by
        rw [inductionHypothesis]
        constructor
        · rintro ⟨index, other, part, here, given, failed, fine⟩
          cases index with
          | zero =>
              cases here
              exact Or.inl ⟨part, given, failed⟩
          | succ index =>
              rw [List.take_succ_cons, List.forall_mem_cons] at fine
              exact Or.inr ⟨fine.1, index, other, part, here, given, failed, fine.2⟩
        · rintro (⟨part, given, failed⟩ | ⟨fine, index, other, part, here, given, failed, others⟩)
          · exact ⟨0, source, part, rfl, given, failed, by simp⟩
          · refine ⟨index + 1, other, part, here, given, failed, ?_⟩
            rw [List.take_succ_cons, List.forall_mem_cons]
            exact ⟨fine, others⟩
      rw [split]
      cases given : part? source with
      | none => simp [List.filterMap_cons_none given]
      | some part =>
          rw [List.filterMap_cons_some given, List.mapM_cons]
          cases found : function part with
          | error other => simp [found, bind, Except.bind]
          | ok result =>
              cases others : (rest.filterMap part?).mapM function <;>
                simp [found, bind, Except.bind, pure, Except.pure]

/-- Rules tell a computation if it gives what each rule for a result or for an error says, and if one
of the rules always applies. -/
structure IsToldBy {Found : Type} (found : Except Failed Found) (accepts : Found → Prop)
    (refuses : Failed → Prop) : Prop where
  ok : ∀ result, accepts result → found = .ok result
  error : ∀ error, refuses error → found = .error error
  total : (∃ result, accepts result) ∨ ∃ error, refuses error

section IsToldBy

variable {Found : Type} {found : Except Failed Found} {accepts : Found → Prop}
variable {refuses : Failed → Prop}

theorem IsToldBy.eq_ok_iff (told : IsToldBy found accepts refuses) {result : Found} :
    found = .ok result ↔ accepts result := by
  refine ⟨fun given => ?_, told.ok result⟩
  rcases told.total with ⟨other, accepted⟩ | ⟨error, refused⟩
  · rwa [Except.ok.inj (given.symm.trans (told.ok other accepted))]
  · cases given.symm.trans (told.error error refused)

theorem IsToldBy.eq_error_iff (told : IsToldBy found accepts refuses) {error : Failed} :
    found = .error error ↔ refuses error := by
  refine ⟨fun given => ?_, told.error error⟩
  rcases told.total with ⟨result, accepted⟩ | ⟨other, refused⟩
  · cases given.symm.trans (told.ok result accepted)
  · rwa [Except.error.inj (given.symm.trans (told.error other refused))]

end IsToldBy

/-- All failures of a computation satisfy a property. -/
def FailsOnlyWith {Found : Type} (allowed : Failed → Prop) (found : Except Failed Found) :
    Prop :=
  ∀ error, found = .error error → allowed error

section FailsOnlyWith

variable {Found Further : Type} {allowed : Failed → Prop}

theorem failsOnlyWith_ok (result : Found) : FailsOnlyWith allowed (.ok result) := by
  intro error failed
  cases failed

theorem failsOnlyWith_error {error : Failed} (isAllowed : allowed error) :
    FailsOnlyWith allowed (.error error : Except Failed Found) := by
  intro other failed
  rw [← Except.error.inj failed]
  exact isAllowed

theorem FailsOnlyWith.bind {found : Except Failed Found} (first : FailsOnlyWith allowed found)
    {next : Found → Except Failed Further}
    (second : ∀ result, found = .ok result → FailsOnlyWith allowed (next result)) :
    FailsOnlyWith allowed (found >>= next) := by
  cases found with
  | ok result => exact second result rfl
  | error error => exact failsOnlyWith_error (first error rfl)

theorem FailsOnlyWith.map {found : Except Failed Found} (first : FailsOnlyWith allowed found)
    (change : Found → Further) : FailsOnlyWith allowed (change <$> found) := by
  cases found with
  | ok result => exact failsOnlyWith_ok _
  | error error => exact failsOnlyWith_error (first error rfl)

end FailsOnlyWith

/-- Two computations match if they find related results, or if both fail and the error of the second
one is the translation of the first. An excused failure of the first one is matched by anything. -/
inductive Matches {First Second : Type} (translate : Failed → Failed) (excused : Failed → Prop)
    (related : First → Second → Prop) : Except Failed First → Except Failed Second → Prop
  | found {first : First} {second : Second} (alike : related first second) :
      Matches translate excused related (.ok first) (.ok second)
  | failed {error counterpart : Failed} (translated : counterpart = translate error) :
      Matches translate excused related (.error error) (.error counterpart)
  | excused {error : Failed} {second : Except Failed Second} (isExcused : excused error) :
      Matches translate excused related (.error error) second

namespace Matches

variable {Third Fourth : Type} {translate : Failed → Failed} {excused : Failed → Prop}
variable {related : First → Second → Prop} {goal : Third → Fourth → Prop}
variable {first : Except Failed First} {second : Except Failed Second}

/-- A computation matches itself if nobody translates its errors. -/
theorem same (untranslated : ∀ error, first = .error error → translate error = error) :
    Matches translate excused Eq first first := by
  cases first with
  | ok result => exact .found rfl
  | error error => exact .failed (untranslated error rfl).symm

theorem bind (begins : Matches translate excused related first second)
    {next : First → Except Failed Third} {other : Second → Except Failed Fourth}
    (goesOn : ∀ found counterpart, related found counterpart →
      Matches translate excused goal (next found) (other counterpart)) :
    Matches translate excused goal (first >>= next) (second >>= other) := by
  cases begins with
  | found alike => exact goesOn _ _ alike
  | failed translated => exact .failed translated
  | excused isExcused => exact .excused isExcused

theorem map (begins : Matches translate excused related first second) {change : First → Third}
    {other : Second → Fourth}
    (keeps : ∀ found counterpart, related found counterpart →
      goal (change found) (other counterpart)) :
    Matches translate excused goal (change <$> first) (other <$> second) := by
  cases begins with
  | found alike => exact .found (keeps _ _ alike)
  | failed translated => exact .failed translated
  | excused isExcused => exact .excused isExcused

end Matches

end OfficeMachine
