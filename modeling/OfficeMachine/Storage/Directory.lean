/-
This file defines directories, which hold files and folders by name. Walking a path finds what it
names or the fault that the system reports for it.
-/

import OfficeMachine.Storage.Path
import OfficeMachine.Table
import OfficeMachine.Text.Quoted

namespace OfficeMachine.Storage

inductive Entry where
  | file (bytes : List UInt8)
  | folder
  deriving DecidableEq

/-- A directory has a location and lists its entries by the names that lead to them from there. A
name that leads to an entry is a folder on the way. -/
structure Directory where
  location : Path
  entries : Table (List String) Entry

inductive Fault where
  | missing
  | denied
  | existing
  | notFolder
  | isFolder
  | nameTooLong
  deriving DecidableEq

def Fault.number : Fault → Nat
  | .missing => 2
  | .denied => 13
  | .existing => 17
  | .notFolder => 20
  | .isFolder => 21
  | .nameTooLong => 36

def Fault.text : Fault → String
  | .missing => "No such file or directory"
  | .denied => "Permission denied"
  | .existing => "File exists"
  | .notFolder => "Not a directory"
  | .isFolder => "Is a directory"
  | .nameTooLong => "File name too long"

/-- The system reports a fault with its number and the path that it concerns. -/
def Fault.message (fault : Fault) (path : Path) : String :=
  s!"[Errno {fault.number}] {fault.text}: {Text.quoted path.text}"

/-- A place is given by the names that lead to it from the root of the system. -/
abbrev Place := List String

namespace Directory

def empty (location : Path) : Directory := ⟨location, Table.empty⟩

def entry? (directory : Directory) (names : List String) : Option Entry :=
  match directory.entries.find? names with
  | some entry => some entry
  | none =>
      if names.isEmpty || directory.entries.keys.any fun other => names.isPrefixOf other then
        some .folder
      else none

/-- A place inside the directory has names that lead to it from there. -/
def inner? (directory : Directory) (place : Place) : Option (List String) :=
  let outer := directory.location.names
  if outer.isPrefixOf place then some (place.drop outer.length) else none

/-- Outside the directory only the folders around it are known. -/
def entryAt? (directory : Directory) (place : Place) : Option Entry :=
  match directory.inner? place with
  | some names => directory.entry? names
  | none => if place.isPrefixOf directory.location.names then some .folder else none

/-- A name in a folder leads to its entry if there is one. -/
def child (directory : Directory) (name : String) (place : Place) : Except Fault Place :=
  match directory.entryAt? (place ++ [name]) with
  | some _ => .ok (place ++ [name])
  | none => .error .missing

/-- Only a folder can be entered. A name in it has at most 255 bytes, and two dots lead to the
folder around it. -/
def enter (directory : Directory) (place : Place) (name : String) : Except Fault Place :=
  match directory.entryAt? place with
  | none => .error .missing
  | some (.file _) => .error .notFolder
  | some .folder =>
      if name = ".." then .ok place.dropLast
      else if 255 < name.utf8ByteSize then .error .nameTooLong
      else directory.child name place

/-- A relative path starts at the directory. -/
def origin (directory : Directory) (path : Path) : Place :=
  if path.root = "" then directory.location.names else []

/-- A path is walked name by name unless it is too long as a whole. -/
def find (directory : Directory) (path : Path) : Except Fault Place :=
  if 4096 ≤ path.text.utf8ByteSize then .error .nameTooLong
  else path.names.foldlM directory.enter (directory.origin path)

/-- The bytes of a file are read through its path. -/
def bytes (directory : Directory) (path : Path) : Except Fault (List UInt8) := do
  match directory.entryAt? (← directory.find path) with
  | some (.file bytes) => .ok bytes
  | some .folder => .error .isFolder
  | none => .error .missing

def put (directory : Directory) (names : List String) (entry : Entry) : Directory :=
  { directory with entries := directory.entries.put names entry }

/-- A new entry goes under its name into the folder that the rest of the path leads to. Outside
the directory it is of no concern. -/
def add (directory : Directory) (path : Path) (entry : Entry) : Except Fault Directory := do
  let place ← directory.find path.parent
  match directory.inner? (place ++ path.names.getLast?.toList) with
  | some names => return directory.put names entry
  | none => return directory

/-- A folder is made if nothing has its path, and a file there is in the way. -/
def settle (directory : Directory) (path : Path) : Except (Fault × Path) Directory :=
  match directory.find path with
  | .error .missing => (directory.add path .folder).mapError fun fault => (fault, path)
  | .error fault => .error (fault, path)
  | .ok place =>
      match directory.entryAt? place with
      | some (.file _) => .error (.existing, path)
      | _ => .ok directory

/-- A folder is made together with the missing folders around it. -/
def makeFolder (directory : Directory) (path : Path) : Except (Fault × Path) Directory :=
  match directory.find path with
  | .error .missing =>
      if path.names.isEmpty then .error (.missing, path)
      else do
        let around ← makeFolder directory path.parent
        around.settle path
  | _ => directory.settle path
termination_by path.names.length
decreasing_by
  rename_i some
  cases names : path.names with
  | nil => simp [names] at some
  | cons name rest => simp [Path.parent, names]

/-- A file is opened for writing at its end, and it is made if it is missing. -/
def openFile (directory : Directory) (path : Path) : Except (Fault × Path) Directory :=
  match directory.bytes path with
  | .ok _ => .ok directory
  | .error .missing => (directory.add path (.file [])).mapError fun fault => (fault, path)
  | .error fault => .error (fault, path)

/-- More bytes go to the end of a file. -/
def extend (directory : Directory) (names : List String) (more : List UInt8) : Directory :=
  match directory.entries.find? names with
  | some (.file bytes) => directory.put names (.file (bytes ++ more))
  | _ => directory

end Directory

end OfficeMachine.Storage
