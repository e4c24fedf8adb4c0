/-
This file defines tables, which keep their entries in the order of their first mention. A second
entry for a key replaces the value and keeps the place.
-/

namespace OfficeMachine

/-- A table lists its entries in order, and no key occurs twice. -/
structure Table (Key Value : Type) where
  entries : List (Key × Value)
  distinct : (entries.map Prod.fst).Nodup

namespace Table

variable {Key Value Other : Type}

@[ext] theorem ext {first second : Table Key Value} (same : first.entries = second.entries) :
    first = second := by
  cases first; cases second; cases same; rfl

instance [DecidableEq Key] [DecidableEq Value] : DecidableEq (Table Key Value) :=
  fun first second => decidable_of_iff (first.entries = second.entries)
    ⟨Table.ext, fun same => same ▸ rfl⟩

def empty : Table Key Value := ⟨[], by simp⟩

def keys (table : Table Key Value) : List Key := table.entries.map Prod.fst

/-- This function replaces the value at a key or adds an entry at the end. -/
def putEntry [DecidableEq Key] (key : Key) (value : Value) :
    List (Key × Value) → List (Key × Value)
  | [] => [(key, value)]
  | entry :: rest =>
      if entry.1 = key then (key, value) :: rest else entry :: putEntry key value rest

theorem keys_putEntry [DecidableEq Key] (key : Key) (value : Value)
    (entries : List (Key × Value)) :
    (putEntry key value entries).map Prod.fst =
      if key ∈ entries.map Prod.fst then entries.map Prod.fst
      else entries.map Prod.fst ++ [key] := by
  induction entries with
  | nil => simp [putEntry]
  | cons entry rest inductionHypothesis =>
      by_cases same : entry.1 = key
      · simp [putEntry, same]
      · have different : key ≠ entry.1 := fun equal => same equal.symm
        simp only [putEntry, same, if_false, List.map_cons, inductionHypothesis,
          List.mem_cons, different, false_or]
        split <;> simp

def put [DecidableEq Key] (table : Table Key Value) (key : Key) (value : Value) :
    Table Key Value where
  entries := putEntry key value table.entries
  distinct := by
    rw [keys_putEntry]
    split
    · exact table.distinct
    · rename_i fresh
      rw [List.nodup_append]
      refine ⟨table.distinct, by simp, ?_⟩
      intro first member second last equal
      simp only [List.mem_singleton] at last
      exact fresh (last ▸ equal ▸ member)

def find? [DecidableEq Key] (table : Table Key Value) (key : Key) : Option Value :=
  (table.entries.find? fun entry => entry.1 = key).map Prod.snd

theorem find?_eq_none_iff [DecidableEq Key] (table : Table Key Value) (key : Key) :
    table.find? key = none ↔ key ∉ table.keys := by
  simp only [find?, keys, Option.map_eq_none_iff, List.find?_eq_none, List.mem_map,
    decide_eq_true_eq, not_exists, not_and]

/-- A new key takes the last place. -/
theorem entries_put_of_fresh [DecidableEq Key] (table : Table Key Value) (key : Key)
    (value : Value) (fresh : key ∉ table.keys) :
    (table.put key value).entries = table.entries ++ [(key, value)] := by
  obtain ⟨entries, distinct⟩ := table
  simp only [keys, put] at fresh ⊢
  clear distinct
  induction entries with
  | nil => rfl
  | cons entry rest inductionHypothesis =>
      simp only [List.map_cons, List.mem_cons, not_or] at fresh
      have different : ¬entry.1 = key := fun same => fresh.1 same.symm
      simp [putEntry, different, inductionHypothesis fresh.2]

theorem mem_keys_put [DecidableEq Key] {table : Table Key Value} {key query : Key} {value : Value}
    (member : query ∈ table.keys) : query ∈ (table.put key value).keys := by
  change query ∈ (putEntry key value table.entries).map Prod.fst
  rw [keys_putEntry]
  split
  · exact member
  · exact List.mem_append_left [key] member

/-- The entries of a list are put into the table one after another. -/
def ofList [DecidableEq Key] (entries : List (Key × Value)) : Table Key Value :=
  entries.foldl (fun table entry => table.put entry.1 entry.2) empty

/-- The function changes each value and keeps the keys. -/
def mapValues (transform : Value → Other) (table : Table Key Value) : Table Key Other where
  entries := table.entries.map fun entry => (entry.1, transform entry.2)
  distinct := by
    rw [List.map_map]
    exact table.distinct

/-- The function changes each value by its key and keeps the keys. -/
def mapEntries (transform : Key → Value → Other) (table : Table Key Value) : Table Key Other where
  entries := table.entries.map fun entry => (entry.1, transform entry.1 entry.2)
  distinct := by
    rw [List.map_map]
    exact table.distinct

theorem find?_mapEntries [DecidableEq Key] (transform : Key → Value → Other)
    (table : Table Key Value) (query : Key) :
    (table.mapEntries transform).find? query = (table.find? query).map (transform query) := by
  obtain ⟨entries, distinct⟩ := table
  simp only [find?, mapEntries]
  clear distinct
  induction entries with
  | nil => rfl
  | cons entry rest inductionHypothesis =>
      by_cases same : entry.1 = query
      · simp [same]
      · simpa [same] using inductionHypothesis

/-- The function changes each key without joining two of them. -/
def mapKeys {NewKey : Type} (transform : Key → NewKey)
    (injective : ∀ first second, transform first = transform second → first = second)
    (table : Table Key Value) : Table NewKey Value where
  entries := table.entries.map fun entry => (transform entry.1, entry.2)
  distinct := by
    have separate := table.distinct
    simp only [List.Nodup, List.pairwise_map] at separate ⊢
    exact separate.imp fun different equal => different (injective _ _ equal)

theorem find?_put [DecidableEq Key] (table : Table Key Value) (key query : Key)
    (value : Value) :
    (table.put key value).find? query = if key = query then some value else table.find? query := by
  obtain ⟨entries, distinct⟩ := table
  simp only [find?, put]
  clear distinct
  induction entries with
  | nil => by_cases same : key = query <;> simp [putEntry, same]
  | cons entry rest inductionHypothesis =>
      by_cases here : entry.1 = key
      · by_cases same : key = query
        · simp [putEntry, here, same]
        · have different : entry.1 ≠ query := fun equal => same (here.symm.trans equal)
          simp [putEntry, here, same]
      · by_cases found : entry.1 = query
        · have different : ¬ query = key := fun equal => here (found.trans equal)
          have reversed : ¬ key = query := fun equal => different equal.symm
          simp [putEntry, found, different, reversed]
        · simpa [putEntry, here, found] using inductionHypothesis

end Table

end OfficeMachine
