/-
This file reads file paths. A path has a root, which is empty if the path is relative, and the
names between the slashes. A single dot and an empty name say nothing and are left out.
-/

import OfficeMachine.Text.Blank

namespace OfficeMachine.Storage

structure Path where
  root : String
  names : List String
  deriving DecidableEq

namespace Path

/-- Two leading slashes are a root of their own, and more of them are as good as one. -/
def rootOf : List Char → String
  | '/' :: '/' :: '/' :: _ => "/"
  | '/' :: '/' :: _ => "//"
  | '/' :: _ => "/"
  | _ => ""

def namesOf (text : List Char) : List String :=
  ((Text.pieces (· = '/') text).map String.ofList).filter fun name => name ≠ "" && name ≠ "."

def ofText (text : String) : Path := ⟨rootOf text.toList, namesOf text.toList⟩

/-- The text of a path joins its names with slashes, and a path without any names is a dot. -/
def text (path : Path) : String :=
  if path.root = "" && path.names.isEmpty then "."
  else path.root ++ "/".intercalate path.names

/-- The parent of a path lacks its last name. -/
def parent (path : Path) : Path := { path with names := path.names.dropLast }

/-- An absolute path replaces the path that it is joined to. -/
def join (base extra : Path) : Path :=
  if extra.root = "" then { base with names := base.names ++ extra.names } else extra

/-- Two dots take the name before them away. At the root there is none to take. -/
def settled (names : List String) : List String :=
  names.foldl (fun passed name => if name = ".." then passed.dropLast else passed ++ [name]) []

/-- From a location, a path is the same as one that leads down from the root without any dots. -/
def absolute (location path : Path) : Path :=
  let whole := location.join path
  { whole with names := settled whole.names }

end Path

end OfficeMachine.Storage
