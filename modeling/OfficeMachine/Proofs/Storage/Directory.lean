/-
This file follows the files of a directory while others are made. What is new stands where nothing
stood, so each file keeps its bytes, and a file that was opened is found under its own names.
-/

import Mathlib.Data.List.Infix
import OfficeMachine.Proofs.Outcome
import OfficeMachine.Storage.Directory

namespace OfficeMachine.Storage

/-- The dots are all gone from a path that is settled. -/
theorem noDots_settled (names : List String) : ".." ∉ Path.settled names := by
  have kept (passed : List String) (clean : ".." ∉ passed) :
      ".." ∉ names.foldl (fun passed name =>
        if name = ".." then passed.dropLast else passed ++ [name]) passed := by
    induction names generalizing passed with
    | nil => exact clean
    | cons name rest inductionHypothesis =>
        apply inductionHypothesis
        beta_reduce
        split
        case isTrue => exact fun member => clean (List.mem_of_mem_dropLast member)
        case isFalse other => simpa [clean] using fun same => other same.symm
  exact kept [] (by simp)

namespace Directory

/-- The content of a file is empty where there is none. -/
def content (directory : Directory) (names : List String) : List UInt8 :=
  match directory.entries.find? names with
  | some (.file bytes) => bytes
  | _ => []

/-- A directory has a file where the names lead to one. -/
def HasFile (directory : Directory) (names : List String) : Prop :=
  ∃ bytes, directory.entries.find? names = some (.file bytes)

/-- A directory holds something at the names of a listed entry or of a folder on the way to one. -/
def Holds (directory : Directory) (names : List String) : Prop :=
  ∃ entry, directory.entry? names = some entry

/-- The target of a path is what it leads to without any walk, if that is in the directory. -/
def target? (directory : Directory) (path : Path) : Option (List String) :=
  let whole := directory.location.absolute path
  directory.inner? (directory.origin whole ++ whole.names)

/-- The target depends on the location of the directory only. -/
theorem target?_congr {directory after : Directory}
    (same : after.location = directory.location) : after.target? = directory.target? := by
  funext path
  rw [target?, target?, inner?, inner?, origin, origin, same]

section Presence

variable {directory : Directory} {place : Place}

theorem inner?_eq_some_iff {names : List String} :
    directory.inner? place = some names ↔ place = directory.location.names ++ names := by
  rw [inner?]
  split
  case isTrue inside =>
    obtain ⟨rest, rfl⟩ := List.isPrefixOf_iff_prefix.mp inside
    simp [eq_comm]
  case isFalse outside =>
    simp only [reduceCtorEq, false_iff]
    rintro rfl
    exact outside (List.isPrefixOf_iff_prefix.mpr (List.prefix_append _ _))

theorem inner?_eq_none_iff :
    directory.inner? place = none ↔ ¬ directory.location.names <+: place := by
  rw [inner?, ← List.isPrefixOf_iff_prefix]
  split <;> simp [*]

/-- Names hold something on the way to an entry. -/
theorem holds_iff {names : List String} : directory.Holds names ↔
    names = [] ∨ ∃ other ∈ directory.entries.keys, names <+: other := by
  rw [Holds, ← Option.isSome_iff_exists]
  unfold entry?
  split
  case h_1 entry found =>
    have member : names ∈ directory.entries.keys := by
      by_contra absent
      rw [(directory.entries.find?_eq_none_iff names).mpr absent] at found
      cases found
    simp only [Option.isSome_some, true_iff]
    exact .inr ⟨names, member, List.prefix_refl names⟩
  case h_2 => split <;> simp_all

/-- Something stands at a place on the way to the directory or to one of its entries. -/
theorem isSome_entryAt?_iff : (directory.entryAt? place).isSome = true ↔
    place <+: directory.location.names ∨
      ∃ other ∈ directory.entries.keys, place <+: directory.location.names ++ other := by
  unfold entryAt?
  split
  case h_1 names inside =>
    rw [inner?_eq_some_iff.mp inside, Option.isSome_iff_exists, ← Holds, holds_iff]
    simp only [List.prefix_append_right_inj]
    refine or_congr_left ⟨?_, ?_⟩
    · rintro rfl
      simp
    · intro short
      have noLonger := short.length_le
      rw [List.length_append] at noLonger
      exact List.length_eq_zero_iff.mp (by omega)
  case h_2 outside =>
    rw [inner?_eq_none_iff] at outside
    split
    case isTrue around => simp [List.isPrefixOf_iff_prefix.mp around]
    case isFalse apart =>
      simp only [Option.isSome_none, Bool.false_eq_true, false_iff, not_or, not_exists, not_and]
      have notAround : ¬ place <+: directory.location.names :=
        fun around => apart (List.isPrefixOf_iff_prefix.mpr around)
      refine ⟨notAround, fun other _ onTheWay => ?_⟩
      rcases List.prefix_or_prefix_of_prefix onTheWay (List.prefix_append _ other) with
        around | inside
      · exact notAround around
      · exact outside inside

/-- Something stands on the way to each place where something stands. -/
theorem isSome_entryAt?_of_prefix {other : Place} (onTheWay : other <+: place)
    (present : (directory.entryAt? place).isSome = true) :
    (directory.entryAt? other).isSome = true := by
  rw [isSome_entryAt?_iff] at present ⊢
  rcases present with around | ⟨names, member, inside⟩
  · exact .inl (onTheWay.trans around)
  · exact .inr ⟨names, member, onTheWay.trans inside⟩

theorem isSome_entryAt?_origin (directory : Directory) (path : Path) :
    (directory.entryAt? (directory.origin path)).isSome = true := by
  rw [isSome_entryAt?_iff, origin]
  split
  · exact .inl (List.prefix_refl _)
  · exact .inl List.nil_prefix

end Presence

section Walks

variable {directory : Directory} {place next : Place} {name : String} {path : Path}

/-- A folder is entered by two dots or by the name of something in it. -/
theorem enter_eq_ok_iff : directory.enter place name = .ok next ↔
    directory.entryAt? place = some .folder ∧
      (name = ".." ∧ next = place.dropLast ∨
        name ≠ ".." ∧ name.utf8ByteSize ≤ 255 ∧ next = place ++ [name] ∧
          (directory.entryAt? next).isSome = true) := by
  unfold enter child
  split
  case h_1 nothing => simp [nothing]
  case h_2 file => simp [file]
  case h_3 folder =>
    split
    case isTrue dots =>
      constructor
      · intro same
        exact ⟨folder, .inl ⟨dots, (Except.ok.inj same).symm⟩⟩
      · rintro ⟨-, ⟨-, rfl⟩ | ⟨noDots, -⟩⟩
        · rfl
        · exact absurd dots noDots
    case isFalse noDots =>
      split
      case isTrue long => simp [folder, noDots, Nat.not_le.mpr long]
      case isFalse short =>
        split
        case h_1 entry found =>
          simp only [Except.ok.injEq, folder, noDots, true_and, false_and, false_or, ne_eq,
            not_false_eq_true, Nat.not_lt.mp short]
          constructor
          · rintro rfl
            exact ⟨rfl, by rw [found]; rfl⟩
          · exact fun given => given.1.symm
        case h_2 nothing =>
          simp only [reduceCtorEq, folder, noDots, true_and, false_and, false_or, ne_eq,
            not_false_eq_true, Nat.not_lt.mp short, false_iff, not_and]
          rintro rfl
          simp [nothing]

/-- A name is missing in a place with something in it only if there is a folder without it. -/
theorem missing_of_enter (present : (directory.entryAt? place).isSome = true)
    (missing : directory.enter place name = .error .missing) :
    directory.entryAt? place = some .folder ∧ name ≠ ".." ∧ name.utf8ByteSize ≤ 255 ∧
      directory.entryAt? (place ++ [name]) = none := by
  unfold enter child at missing
  split at missing
  case h_1 nothing => simp [nothing] at present
  case h_2 => cases missing
  case h_3 folder =>
    split at missing
    case isTrue => cases missing
    case isFalse noDots =>
      split at missing
      case isTrue => cases missing
      case isFalse short =>
        split at missing
        case h_1 => cases missing
        case h_2 nothing => exact ⟨folder, noDots, Nat.not_lt.mp short, nothing⟩

/-- Something stands where a walk ends if something stood where it began. -/
theorem isSome_entryAt?_of_walk {names : List String}
    (present : (directory.entryAt? place).isSome = true)
    (walked : names.foldlM directory.enter place = .ok next) :
    (directory.entryAt? next).isSome = true := by
  induction names generalizing place with
  | nil =>
      cases walked
      exact present
  | cons name rest inductionHypothesis =>
      rw [List.foldlM_cons, bind_eq_ok_iff] at walked
      obtain ⟨between, entered, others⟩ := walked
      refine inductionHypothesis ?_ others
      obtain ⟨-, ⟨-, rfl⟩ | ⟨-, -, -, present⟩⟩ := enter_eq_ok_iff.mp entered
      · exact isSome_entryAt?_of_prefix (List.dropLast_prefix place) present
      · exact present

/-- A walk without dots adds its names to the place where it began. -/
theorem eq_of_walk {names : List String} (noDots : ".." ∉ names)
    (walked : names.foldlM directory.enter place = .ok next) : next = place ++ names := by
  induction names generalizing place with
  | nil =>
      cases walked
      rw [List.append_nil]
  | cons name rest inductionHypothesis =>
      rw [List.mem_cons, not_or] at noDots
      rw [List.foldlM_cons, bind_eq_ok_iff] at walked
      obtain ⟨between, entered, others⟩ := walked
      rw [inductionHypothesis noDots.2 others]
      obtain ⟨-, ⟨dots, -⟩ | ⟨-, -, rfl, -⟩⟩ := enter_eq_ok_iff.mp entered
      · exact absurd dots.symm noDots.1
      · rw [List.append_assoc, List.singleton_append]

theorem find_eq_ok_iff : directory.find path = .ok place ↔
    path.text.utf8ByteSize < 4096 ∧
      path.names.foldlM directory.enter (directory.origin path) = .ok place := by
  unfold find
  split
  case isTrue long => simp [Nat.not_lt.mpr long]
  case isFalse short => simp [Nat.not_le.mp short]

theorem isSome_entryAt?_of_find (found : directory.find path = .ok place) :
    (directory.entryAt? place).isSome = true :=
  isSome_entryAt?_of_walk (isSome_entryAt?_origin directory path) (find_eq_ok_iff.mp found).2

/-- A folder lacks the last name of a path if nothing stands there although it could. -/
structure Lacks (directory : Directory) (place : Place) (path : Path) (last : String) : Prop where
  names : path.names = path.names.dropLast ++ [last]
  noDots : last ≠ ".."
  fits : last.utf8ByteSize ≤ 255
  short : path.text.utf8ByteSize < 4096
  folder : directory.entryAt? place = some .folder
  nothing : directory.entryAt? (place ++ [last]) = none

/-- If a path is missing but its parent is not, only the last name is lacking. -/
theorem exists_lacks_of_missing (found : directory.find path.parent = .ok place)
    (missing : directory.find path = .error .missing) :
    ∃ last, directory.Lacks place path last := by
  have short : path.text.utf8ByteSize < 4096 := by
    by_contra long
    rw [find, if_pos (Nat.not_lt.mp long)] at missing
    cases missing
  rw [find, if_neg (Nat.not_le.mpr short)] at missing
  rcases List.eq_nil_or_concat path.names with empty | ⟨front, last, names⟩
  · rw [empty] at missing
    cases missing
  · rw [List.concat_eq_append] at names
    have others : path.names.dropLast = front := by simp [names]
    have walked : front.foldlM directory.enter (directory.origin path) = .ok place :=
      others ▸ (find_eq_ok_iff.mp found).2
    rw [names, List.foldlM_append, walked] at missing
    change [last].foldlM directory.enter place = .error .missing at missing
    have entered : directory.enter place last = .error .missing := by
      simpa using missing
    obtain ⟨folder, noDots, fits, nothing⟩ :=
      missing_of_enter (isSome_entryAt?_of_find found) entered
    exact ⟨last, by rw [others, names], noDots, fits, short, folder, nothing⟩

end Walks

section Growth

variable {directory after : Directory} {names : List String} {place next : Place}

/-- A file is listed exactly if it stands at its names. -/
theorem find?_eq_file_iff {bytes : List UInt8} :
    directory.entries.find? names = some (.file bytes) ↔
      directory.entry? names = some (.file bytes) := by
  unfold entry?
  split
  case h_1 entry found => rw [found]
  case h_2 nothing =>
    rw [nothing]
    split <;> simp

theorem find?_eq_none_of_nothing (nothing : directory.entry? names = none) :
    directory.entries.find? names = none := by
  unfold entry? at nothing
  split at nothing
  case h_1 => cases nothing
  case h_2 found => exact found

/-- What stands on the way to something else is a folder. -/
theorem folder_of_holds (unlisted : directory.entries.find? names = none)
    (holds : directory.Holds names) : directory.entry? names = some .folder := by
  obtain ⟨entry, there⟩ := holds
  unfold entry? at there ⊢
  rw [unlisted] at there ⊢
  simp only at there ⊢
  split at there
  case isTrue onTheWay => rw [if_pos onTheWay]
  case isFalse => cases there

/-- What is new hides nothing that stood in the directory. -/
theorem stays_put {new found : Entry} {other : List String}
    (nothing : directory.entry? names = none) (there : directory.entry? other = some found) :
    Directory.entry? (directory.put names new) other = some found := by
  have different : names ≠ other := by
    rintro rfl
    rw [nothing] at there
    cases there
  have listed : (directory.put names new).entries.find? other =
      directory.entries.find? other := by
    rw [put, Table.find?_put, if_neg different]
  cases unlisted : directory.entries.find? other with
  | some entry =>
      unfold entry? at there ⊢
      rw [listed]
      rw [unlisted] at there ⊢
      exact there
  | none =>
      have holds : directory.Holds other := ⟨found, there⟩
      have stillHolds : (directory.put names new).Holds other := by
        rw [holds_iff] at holds ⊢
        rcases holds with empty | ⟨key, member, onTheWay⟩
        · exact .inl empty
        · exact .inr ⟨key, Table.mem_keys_put member, onTheWay⟩
      rw [folder_of_holds unlisted holds] at there
      rw [folder_of_holds (listed.trans unlisted) stillHolds, there]

/-- A directory grows when things are made in it. Nothing that stood there is moved or changed, and
no bytes are added. -/
structure Grows (directory after : Directory) : Prop where
  location : after.location = directory.location
  entries : ∀ place entry, directory.entryAt? place = some entry →
    after.entryAt? place = some entry
  content : ∀ names, after.content names = directory.content names

theorem Grows.refl (directory : Directory) : Grows directory directory :=
  ⟨rfl, fun _ _ there => there, fun _ => rfl⟩

theorem Grows.trans {last : Directory} (first : Grows directory after)
    (second : Grows after last) : Grows directory last where
  location := second.location.trans first.location
  entries place entry there := second.entries place entry (first.entries place entry there)
  content names := (second.content names).trans (first.content names)

/-- The places of a directory that has grown have the names that they had. -/
theorem Grows.inner? (grows : Grows directory after) (place : Place) :
    after.inner? place = directory.inner? place := by
  rw [Directory.inner?, Directory.inner?, grows.location]

theorem Grows.origin (grows : Grows directory after) (path : Path) :
    after.origin path = directory.origin path := by
  rw [Directory.origin, Directory.origin, grows.location]

/-- A directory grows by something new without any bytes. -/
theorem grows_put {new : Entry} (nothing : directory.entry? names = none)
    (empty : new = .folder ∨ new = .file []) : Grows directory (directory.put names new) where
  location := rfl
  entries := by
    intro place entry there
    have inside : (directory.put names new).inner? place = directory.inner? place := rfl
    rw [entryAt?] at there ⊢
    rw [inside]
    cases inner : directory.inner? place with
    | some other =>
        rw [inner] at there
        exact stays_put nothing there
    | none =>
        rw [inner] at there
        exact there
  content := by
    intro other
    rw [content, content, put, Table.find?_put]
    by_cases same : names = other
    · rw [if_pos same, ← same, find?_eq_none_of_nothing nothing]
      rcases empty with rfl | rfl <;> rfl
    · rw [if_neg same]

/-- Something is added under a name that a folder lacks. -/
theorem exists_of_add {path : Path} {new : Entry}
    (missing : directory.find path = .error .missing) (added : directory.add path new = .ok after) :
    ∃ place last, directory.find path.parent = .ok place ∧ directory.Lacks place path last ∧
      (directory.inner? (place ++ [last]) = none ∧ after = directory ∨
        ∃ names, directory.inner? (place ++ [last]) = some names ∧
          directory.entry? names = none ∧ after = directory.put names new) := by
  rw [add, bind_eq_ok_iff] at added
  obtain ⟨place, found, added⟩ := added
  obtain ⟨last, lacks⟩ := exists_lacks_of_missing found missing
  refine ⟨place, last, found, lacks, ?_⟩
  have lastName : path.names.getLast?.toList = [last] := by
    rw [lacks.names]
    simp
  rw [lastName] at added
  split at added
  case h_1 inner inside =>
    have nothing := lacks.nothing
    rw [entryAt?, inside] at nothing
    exact .inr ⟨inner, inside, nothing, (Except.ok.inj added).symm⟩
  case h_2 outside => exact .inl ⟨outside, (Except.ok.inj added).symm⟩

theorem grows_add {path : Path} {new : Entry} (empty : new = .folder ∨ new = .file [])
    (missing : directory.find path = .error .missing) (added : directory.add path new = .ok after) :
    Grows directory after := by
  obtain ⟨place, last, -, -, ⟨-, rfl⟩ | ⟨names, -, nothing, rfl⟩⟩ := exists_of_add missing added
  · exact Grows.refl _
  · exact grows_put nothing empty

theorem grows_settle {path : Path} (settled : directory.settle path = .ok after) :
    Grows directory after := by
  unfold settle at settled
  split at settled
  case h_1 missing => exact grows_add (.inl rfl) missing (mapError_eq_ok_iff.mp settled)
  case h_2 => cases settled
  case h_3 =>
    split at settled
    case h_1 => cases settled
    case h_2 =>
      cases settled
      exact Grows.refl _

/-- A directory grows when a folder is made with the folders around it. -/
theorem grows_makeFolder {path : Path} (made : directory.makeFolder path = .ok after) :
    Grows directory after := by
  fun_induction makeFolder directory path generalizing after with
  | case1 => cases made
  | case2 path _ _ inductionHypothesis =>
      obtain ⟨around, first, second⟩ := bind_eq_ok_iff.mp made
      exact (inductionHypothesis first).trans (grows_settle second)
  | case3 => exact grows_settle made

theorem bytes_eq_ok_iff {path : Path} {found : List UInt8} :
    directory.bytes path = .ok found ↔
      ∃ place, directory.find path = .ok place ∧ directory.entryAt? place = some (.file found) := by
  rw [bytes, bind_eq_ok_iff]
  refine exists_congr fun place => and_congr_right fun _ => ?_
  cases directory.entryAt? place with
  | none => simp
  | some entry => cases entry <;> simp

/-- The bytes of a file are missing only if the walk to it ends early. -/
theorem find_missing_of_bytes {path : Path} (missing : directory.bytes path = .error .missing) :
    directory.find path = .error .missing := by
  rw [bytes] at missing
  cases found : directory.find path with
  | error fault =>
      rw [found] at missing
      cases missing
      rfl
  | ok place =>
      obtain ⟨entry, there⟩ := Option.isSome_iff_exists.mp (isSome_entryAt?_of_find found)
      simp only [found, bind, Except.bind, there] at missing
      cases entry <;> cases missing

theorem grows_openFile {path : Path} (opened : directory.openFile path = .ok after) :
    Grows directory after := by
  unfold openFile at opened
  split at opened
  case h_1 =>
    cases opened
    exact Grows.refl _
  case h_2 missing =>
    exact grows_add (.inr rfl) (find_missing_of_bytes missing) (mapError_eq_ok_iff.mp opened)
  case h_3 => cases opened

/-- A directory that has grown is entered in the same ways. -/
theorem Grows.enter (grows : Grows directory after) {name : String}
    (entered : directory.enter place name = .ok next) : after.enter place name = .ok next := by
  rw [enter_eq_ok_iff] at entered ⊢
  obtain ⟨folder, dots | ⟨noDots, fits, same, present⟩⟩ := entered
  · exact ⟨grows.entries place _ folder, .inl dots⟩
  · obtain ⟨found, here⟩ := Option.isSome_iff_exists.mp present
    refine ⟨grows.entries place _ folder, .inr ⟨noDots, fits, same, ?_⟩⟩
    rw [grows.entries next found here]
    rfl

theorem Grows.walk (grows : Grows directory after) {path : List String}
    (walked : path.foldlM directory.enter place = .ok next) :
    path.foldlM after.enter place = .ok next := by
  induction path generalizing place with
  | nil => exact walked
  | cons name rest inductionHypothesis =>
      rw [List.foldlM_cons, bind_eq_ok_iff] at walked ⊢
      obtain ⟨between, entered, others⟩ := walked
      exact ⟨between, grows.enter entered, inductionHypothesis others⟩

/-- A file that was added is listed, and its path leads to it, if it lies in the directory. -/
theorem hasFile_of_add {path : Path} (noDots : ".." ∉ path.names)
    (inside : directory.inner? (directory.origin path ++ path.names) = some names)
    (missing : directory.find path = .error .missing)
    (made : directory.add path (.file []) = .ok after) :
    after.HasFile names ∧ after.find path = .ok (directory.origin path ++ path.names) := by
  have grows := grows_add (.inr rfl) missing made
  obtain ⟨place, last, found, lacks, added⟩ := exists_of_add missing made
  have parent := (find_eq_ok_iff.mp found).2
  have front : place = directory.origin path ++ path.names.dropLast :=
    eq_of_walk (fun member => noDots (List.mem_of_mem_dropLast member)) parent
  have whole : directory.origin path ++ path.names = place ++ [last] := by
    rw [front, List.append_assoc, ← lacks.names]
  rw [whole] at inside ⊢
  rcases added with ⟨outside, -⟩ | ⟨other, there, nothing, rfl⟩
  · rw [outside] at inside
    cases inside
  obtain rfl : other = names := Option.some.inj (there.symm.trans inside)
  have listed : (directory.put other (.file [])).entries.find? other = some (.file []) := by
    rw [put, Table.find?_put, if_pos rfl]
  have entered : (directory.put other (.file [])).enter place last = .ok (place ++ [last]) := by
    refine enter_eq_ok_iff.mpr
      ⟨grows.entries place _ lacks.folder, .inr ⟨lacks.noDots, lacks.fits, rfl, ?_⟩⟩
    have same : (directory.put other (.file [])).inner? (place ++ [last]) = some other := there
    rw [entryAt?, same]
    simp only [find?_eq_file_iff.mp listed, Option.isSome_some]
  refine ⟨⟨[], listed⟩, find_eq_ok_iff.mpr ⟨lacks.short, ?_⟩⟩
  rw [lacks.names, List.foldlM_append, bind_eq_ok_iff]
  refine ⟨place, grows.walk parent, ?_⟩
  rw [List.foldlM_cons, entered]
  rfl

/-- A file that was opened is listed, and its path leads to it, if it lies in the directory. -/
theorem hasFile_of_openFile {path : Path} (noDots : ".." ∉ path.names)
    (inside : directory.inner? (directory.origin path ++ path.names) = some names)
    (opened : directory.openFile path = .ok after) :
    after.HasFile names ∧ after.find path = .ok (directory.origin path ++ path.names) := by
  unfold openFile at opened
  split at opened
  case h_1 content read =>
    cases opened
    obtain ⟨place, found, there⟩ := bytes_eq_ok_iff.mp read
    rw [← eq_of_walk noDots (find_eq_ok_iff.mp found).2] at inside ⊢
    rw [entryAt?, inside] at there
    exact ⟨⟨content, find?_eq_file_iff.mpr there⟩, found⟩
  case h_2 missing =>
    exact hasFile_of_add noDots inside (find_missing_of_bytes missing)
      (mapError_eq_ok_iff.mp opened)
  case h_3 => cases opened

/-- A file that was opened is known by the names in the directory that its path has. -/
theorem known_of_openFile {path : Path} (noDots : ".." ∉ path.names)
    (opened : directory.openFile path = .ok after) :
    (match after.find path with
      | .ok place => after.inner? place
      | .error _ => none) = directory.inner? (directory.origin path ++ path.names) := by
  have grows := grows_openFile opened
  cases inside : directory.inner? (directory.origin path ++ path.names) with
  | some names =>
      rw [(hasFile_of_openFile noDots inside opened).2]
      exact (grows.inner? _).trans inside
  | none =>
      cases found : after.find path with
      | error fault => rfl
      | ok place =>
          change after.inner? place = none
          rw [eq_of_walk noDots (find_eq_ok_iff.mp found).2, grows.origin, grows.inner?, inside]

end Growth

section Extension

variable {directory : Directory} {names other : List String} {more : List UInt8}

@[simp] theorem location_extend (directory : Directory) (names : List String)
    (more : List UInt8) : (directory.extend names more).location = directory.location := by
  unfold extend
  split <;> rfl

/-- More bytes go to the end of the file with the names, and all other files keep theirs. -/
theorem content_extend (hasFile : directory.HasFile names) (more : List UInt8)
    (other : List String) : (directory.extend names more).content other =
      directory.content other ++ if names = other then more else [] := by
  obtain ⟨bytes, listed⟩ := hasFile
  simp only [extend, listed, content, put, Table.find?_put]
  by_cases same : names = other
  · simp [← same, listed]
  · simp [same]

theorem HasFile.extend (hasFile : directory.HasFile other) (names : List String)
    (more : List UInt8) : (directory.extend names more).HasFile other := by
  unfold Directory.extend
  split
  case h_1 bytes listed =>
    by_cases same : names = other
    · exact ⟨bytes ++ more, by rw [put, Table.find?_put, if_pos same]⟩
    · obtain ⟨found, there⟩ := hasFile
      exact ⟨found, by rw [put, Table.find?_put, if_neg same, there]⟩
  case h_2 => exact hasFile

end Extension

end Directory

end OfficeMachine.Storage
