/-
This file tells what a table finds and in which order. A table that collects a list of pairs has each
key of the list once, at the place of its first pair, with the value of its last pair.
-/

import Mathlib.Data.List.Nodup
import Mathlib.Data.List.Perm.Basic
import OfficeMachine.Table

namespace OfficeMachine.Table

variable {Key Value : Type} [DecidableEq Key]

/-- A table finds exactly the values of its entries. -/
theorem find?_eq_some_iff (table : Table Key Value) {key : Key} {value : Value} :
    table.find? key = some value ↔ (key, value) ∈ table.entries := by
  have listed {other : Value} (found : table.find? key = some other) :
      (key, other) ∈ table.entries := by
    obtain ⟨entry, first, same⟩ := Option.map_eq_some_iff.mp found
    have sameKey : entry.1 = key := by simpa using List.find?_some first
    rw [← sameKey, ← same]
    exact List.mem_of_find?_eq_some first
  constructor
  · exact listed
  · intro member
    cases found : table.find? key with
    | none =>
        rw [find?_eq_none_iff] at found
        exact absurd (List.mem_map_of_mem member) found
    | some other =>
        have same := List.inj_on_of_nodup_map table.distinct (listed found) member rfl
        rw [(Prod.mk.inj same).2]

/-- The order of the entries does not matter to a look into a table. -/
theorem find?_eq_of_perm {first second : Table Key Value}
    (reordered : first.entries.Perm second.entries) (key : Key) :
    first.find? key = second.find? key := by
  apply Option.ext
  intro value
  rw [find?_eq_some_iff, find?_eq_some_iff]
  exact reordered.mem_iff

/-- Two tables that find the same values have the same entries, perhaps in another order. -/
theorem perm_of_find?_eq {first second : Table Key Value}
    (same : ∀ key, first.find? key = second.find? key) :
    first.entries.Perm second.entries := by
  rw [List.perm_ext_iff_of_nodup (first.distinct.of_map _) (second.distinct.of_map _)]
  rintro ⟨key, value⟩
  rw [← find?_eq_some_iff, ← find?_eq_some_iff, same]

/-- The entries of a table are its keys with what it finds for them. -/
theorem entries_eq (table : Table Key Value) :
    table.entries =
      table.keys.filterMap fun key => (table.find? key).map fun value => (key, value) := by
  have found : ∀ entry ∈ table.entries,
      (table.find? entry.1).map (fun value => (entry.1, value)) = some entry := by
    intro entry member
    rw [table.find?_eq_some_iff.mpr member]
    rfl
  rw [keys, List.filterMap_map]
  exact ((List.filterMap_congr found).trans List.filterMap_some).symm

/-- Two tables with the same keys in the same order are equal if they find the same values. -/
theorem ext_keys {first second : Table Key Value} (keys : first.keys = second.keys)
    (same : ∀ key ∈ first.keys, first.find? key = second.find? key) : first = second := by
  apply Table.ext
  rw [first.entries_eq, second.entries_eq, ← keys]
  apply List.filterMap_congr
  intro key member
  rw [same key member]

/-- A table collects pairs if its keys are the keys of the pairs in the order of their first mention,
and the value for a key is the one of the last pair that has the key. -/
structure Collects (table : Table Key Value) (pairs : List (Key × Value)) : Prop where
  keys : table.keys = (pairs.map Prod.fst).eraseDups
  last : ∀ before key value after, pairs = before ++ (key, value) :: after →
    key ∉ after.map Prod.fst → table.find? key = some value

theorem exists_last_pair {pairs : List (Key × Value)} {key : Key}
    (member : key ∈ pairs.map Prod.fst) :
    ∃ before value after, pairs = before ++ (key, value) :: after ∧ key ∉ after.map Prod.fst := by
  induction pairs with
  | nil => cases member
  | cons pair rest inductionHypothesis =>
      by_cases later : key ∈ rest.map Prod.fst
      · obtain ⟨before, value, after, shape, fresh⟩ := inductionHypothesis later
        exact ⟨pair :: before, value, after, by rw [shape, List.cons_append], fresh⟩
      · have here : key = pair.1 := by
          rcases List.mem_cons.mp member with same | inRest
          · exact same
          · exact absurd inRest later
        exact ⟨[], pair.2, rest, by rw [here, List.nil_append], later⟩

/-- Pairs are collected in one way only. -/
theorem Collects.unique {first second : Table Key Value} {pairs : List (Key × Value)}
    (collects : first.Collects pairs) (collectsToo : second.Collects pairs) : first = second := by
  refine ext_keys (collects.keys.trans collectsToo.keys.symm) ?_
  intro key member
  rw [collects.keys, List.mem_eraseDups] at member
  obtain ⟨before, value, after, shape, fresh⟩ := exists_last_pair member
  rw [collects.last before key value after shape fresh,
    collectsToo.last before key value after shape fresh]

theorem collects_empty : (empty : Table Key Value).Collects [] where
  keys := rfl
  last := by
    intro before key value after shape
    simp at shape

/-- A pair that is put into a table comes behind the pairs that it has collected. -/
theorem Collects.put {table : Table Key Value} {pairs : List (Key × Value)}
    (collects : table.Collects pairs) (key : Key) (value : Value) :
    (table.put key value).Collects (pairs ++ [(key, value)]) where
  keys := by
    have known : key ∈ table.keys ↔ key ∈ pairs.map Prod.fst := by
      rw [collects.keys, List.mem_eraseDups]
    change (putEntry key value table.entries).map Prod.fst = _
    rw [keys_putEntry, List.map_append, List.eraseDups_append, ← collects.keys]
    change (if key ∈ table.keys then table.keys else table.keys ++ [key]) = _
    by_cases member : key ∈ table.keys
    · simp [member, known.mp member, List.removeAll]
    · simp [member, mt known.mpr member, List.removeAll, List.eraseDups_cons]
  last := by
    intro before query content after shape fresh
    rw [find?_put]
    rcases List.eq_nil_or_concat after with empty | ⟨middle, final, concat⟩
    · rw [empty] at shape
      obtain ⟨-, same⟩ := List.append_inj' shape rfl
      obtain ⟨sameKey, sameValue⟩ := Prod.mk.inj (List.singleton_inj.mp same)
      rw [if_pos sameKey, sameValue]
    · have split : pairs ++ [(key, value)] = (before ++ (query, content) :: middle) ++ [final] := by
        rw [shape, concat, List.concat_eq_append, List.append_assoc, List.cons_append]
      obtain ⟨front, same⟩ := List.append_inj' split rfl
      rw [concat, List.concat_eq_append, ← same, List.map_append, List.mem_append, not_or] at fresh
      have different : key ≠ query := fun equal => fresh.2 (List.mem_singleton.mpr equal.symm)
      rw [if_neg different]
      exact collects.last before query content middle front fresh.1

/-- A list without a repeated member has nothing to erase. -/
theorem eraseDups_of_nodup {keys : List Key} (distinct : keys.Nodup) : keys.eraseDups = keys := by
  induction keys with
  | nil => rfl
  | cons key rest inductionHypothesis =>
      obtain ⟨fresh, others⟩ := List.nodup_cons.mp distinct
      have kept : rest.filter (fun other => !other == key) = rest := by
        rw [List.filter_eq_self]
        intro other member
        have different : other ≠ key := fun same => fresh (same ▸ member)
        simpa using different
      rw [List.eraseDups_cons, kept, inductionHypothesis others]

/-- A table collects its own entries. -/
theorem collects_entries (table : Table Key Value) : table.Collects table.entries where
  keys := (eraseDups_of_nodup table.distinct).symm
  last := by
    intro before key value after shape _
    rw [find?_eq_some_iff, shape]
    exact List.mem_append_right _ List.mem_cons_self

/-- The table of a list collects the list. -/
theorem collects_ofList (pairs : List (Key × Value)) : (ofList pairs).Collects pairs := by
  have continues {table : Table Key Value} {earlier : List (Key × Value)}
      (collects : table.Collects earlier) (later : List (Key × Value)) :
      (later.foldl (fun table pair => table.put pair.1 pair.2) table).Collects (earlier ++ later) := by
    induction later generalizing table earlier with
    | nil => rwa [List.foldl_nil, List.append_nil]
    | cons pair rest inductionHypothesis =>
        have extended := inductionHypothesis (collects.put pair.1 pair.2)
        rwa [List.append_assoc, List.singleton_append] at extended
  exact continues collects_empty pairs

end OfficeMachine.Table
