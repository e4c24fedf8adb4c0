/-
This file defines the floor. Its tiles are numbered from zero, a tile is empty or holds one box,
and a bound may fix the last tile. Every occupied tile lies on the floor.
-/

import Std.Data.ExtTreeMap
import OfficeMachine.Box
import OfficeMachine.Instruction
import OfficeMachine.Table

namespace OfficeMachine

/-- A floor without a bound goes on for ever. -/
def covers (bound : Option Nat) (address : Nat) : Bool :=
  match bound with
  | none => true
  | some last => address ≤ last

structure Floor where
  tiles : Std.ExtTreeMap Nat Box
  bound : Option Nat
  covered : ∀ address, address ∈ tiles → covers bound address = true

inductive TileError where
  | outside (address : Int) (bound : Option Nat)
  | empty (address : Int)
  | emptyPointer (address : Int)
  | letterPointer (address : Int) (letter : Letter)
  deriving DecidableEq

def TileError.message : TileError → String
  | .outside address (some last) => s!"address {address} out of bounds (accepted: [0, {last}])"
  | .outside address none => s!"address {address} out of bounds (accepted: [0, ∞))"
  | .empty address => s!"no value on tile {address}"
  | .emptyPointer address => s!"no value on tile {address} to use as an address"
  | .letterPointer address letter => s!"tile {address} holds letter {letter.text}, not an address"

/-- A floor cannot be laid out with a negative bound or with boxes that are not on it. -/
inductive LayoutError where
  | negativeBound (bound : Int)
  | negativeAddress (address : Int)
  | beyondBound (address : Int) (last : Nat)
  deriving DecidableEq

def LayoutError.message : LayoutError → String
  | .negativeBound bound => s!"max address must be >= 0, got {bound}"
  | .negativeAddress address => s!"negative memory address {address}"
  | .beyondBound address last =>
      s!"memory address {address} out of bounds (accepted: [0, {last}])"

namespace Floor

def bare (bound : Option Nat) : Floor where
  tiles := ∅
  bound := bound
  covered := fun _ member => absurd member Std.ExtTreeMap.not_mem_empty

/-- A place is the address of a tile on the floor, occupied or empty. -/
abbrev Place (floor : Floor) := { address : Nat // covers floor.bound address = true }

/-- The place of an address exists if the address is not negative and not beyond the bound. -/
def place? (floor : Floor) : Int → Option floor.Place
  | .negSucc _ => none
  | .ofNat address =>
      if onFloor : covers floor.bound address = true then some ⟨address, onFloor⟩ else none

def place (floor : Floor) (address : Int) : Except TileError floor.Place :=
  match floor.place? address with
  | some place => .ok place
  | none => .error (.outside address floor.bound)

/-- This function puts a box on a tile and leaves every other tile alone. -/
def put (floor : Floor) (place : floor.Place) (box : Box) : Floor where
  tiles := floor.tiles.insert place.val box
  bound := floor.bound
  covered := by
    intro address member
    rw [Std.ExtTreeMap.mem_insert] at member
    rcases member with same | old
    · rw [← Std.LawfulEqCmp.eq_of_compare same]
      exact place.property
    · exact floor.covered address old

/-- The content of a tile is its box, if the tile has one. -/
def get (floor : Floor) (address : Int) : Except TileError (Option Box) :=
  (floor.place address).map fun place => floor.tiles[place.val]?

/-- Reading needs an occupied tile. -/
def read (floor : Floor) (address : Int) : Except TileError Box := do
  match ← floor.get address with
  | some box => .ok box
  | none => .error (.empty address)

def write (floor : Floor) (address : Int) (box : Box) : Except TileError Floor :=
  (floor.place address).map fun place => floor.put place box

/-- The effective address of an indirect address is the number on its tile. -/
def resolve (floor : Floor) (address : Address) : Except TileError Nat :=
  if address.indirect then do
    match ← floor.get address.index with
    | none => .error (.emptyPointer address.index)
    | some (.letter letter) => .error (.letterPointer address.index letter)
    | some (.number number) => (floor.place number.value).map Subtype.val
  else (floor.place address.index).map Subtype.val

/-- This function puts one box of the initial layout on the floor. -/
def layOne (floor : Floor) (entry : Int × Box) : Except LayoutError Floor :=
  match floor.place? entry.1 with
  | some place => .ok (floor.put place entry.2)
  | none =>
      match floor.bound with
      | some last =>
          if entry.1 < 0 then .error (.negativeAddress entry.1)
          else .error (.beyondBound entry.1 last)
      | none => .error (.negativeAddress entry.1)

/-- The bound is checked first and then the boxes in their order. -/
def lay (initial : Table Int Box) (bound : Option Int) : Except LayoutError Floor :=
  match bound with
  | none => initial.entries.foldlM layOne (bare none)
  | some (.negSucc last) => .error (.negativeBound (.negSucc last))
  | some (.ofNat last) => initial.entries.foldlM layOne (bare (some last))

/-- The occupied tiles are listed in the order of their addresses. -/
def snapshot (floor : Floor) : List (Nat × Box) := floor.tiles.toList

/-- A floor without a bound ends behind its last occupied tile. -/
def extent (floor : Floor) : Nat :=
  match floor.bound with
  | some last => last + 1
  | none =>
      match floor.tiles.maxKey? with
      | some last => last + 1
      | none => 0

/-- An extent is a size only if it fits into a signed 64-bit number. -/
def size? (floor : Floor) : Option Nat :=
  if floor.extent < Nat.pow 2 63 then some floor.extent else none

end Floor

end OfficeMachine
