/-
This file reads the boxes on the inbox and the floor from tokens, and it writes boxes and floors
as tokens again.
-/

import OfficeMachine.Box.Token
import OfficeMachine.Table

namespace OfficeMachine.Preset

/-- Tokens are refused for a box that is none, an odd number of them or an address that is no
number. -/
inductive Error where
  | badInput (error : TokenError)
  | oddCount (count : Nat)
  | badAddress (text : String)
  | badTile (address : String) (error : TokenError)
  deriving DecidableEq

def Error.message : Error → String
  | .badInput error => s!"Invalid input value: {error.message}"
  | .oddCount count =>
      "Invalid memory arguments: expected an even number of tokens (address/value pairs), " ++
        s!"got {count}"
  | .badAddress text => s!"Invalid memory address: {Text.quoted text}"
  | .badTile address error => s!"Invalid memory value at address {address}: {error.message}"

/-- Each token gives one box of the inbox. -/
def inbox (tokens : List String) : Except Error (List Box) :=
  tokens.mapM fun token => (Box.ofToken token).mapError Error.badInput

/-- An address and a box are read from two tokens. The box is read before the value of the
address. -/
def tile (addressToken boxToken : String) : Except Error (Nat × Box) :=
  let digits := Text.trim addressToken.toList
  let address := String.ofList digits
  if Numeral.isDigits digits then
    match Box.ofToken boxToken with
    | .error error => .error (.badTile address error)
    | .ok box =>
        match Numeral.read digits with
        | .error failure => .error (.badTile address (.tooLong failure))
        | .ok number => .ok (number, box)
  else .error (.badAddress address)

/-- A later box for an address replaces the earlier one. -/
def putTiles (table : Table Nat Box) : List String → Except Error (Table Nat Box)
  | addressToken :: boxToken :: rest => do
      let (address, box) ← tile addressToken boxToken
      putTiles (table.put address box) rest
  | _ => .ok table

/-- The tokens of a floor come in pairs of an address and a box. -/
def tiles (tokens : List String) : Except Error (Table Nat Box) :=
  if tokens.length % 2 = 0 then putTiles Table.empty tokens else .error (.oddCount tokens.length)

/-- The layout of a floor takes its addresses as integers. -/
def layout (table : Table Nat Box) : Table Int Box :=
  table.mapKeys (fun (address : Nat) => (address : Int)) fun _ _ equal => Int.ofNat_inj.mp equal

/-- Boxes are written as their tokens with spaces between them. -/
def boxesText (boxes : List Box) : String := " ".intercalate (boxes.map Box.text)

/-- An occupied tile is written as its address and its box. -/
def tileText (entry : Int × Box) : String := s!"{entry.1}={entry.2.text}"

def tilesText (entries : List (Int × Box)) : String :=
  " ".intercalate (entries.map tileText)

/-- The occupied tiles of a floor are written in the order of their addresses. -/
def floorText (snapshot : List (Nat × Box)) : String :=
  tilesText (snapshot.map fun entry => ((entry.1 : Int), entry.2))

end OfficeMachine.Preset
