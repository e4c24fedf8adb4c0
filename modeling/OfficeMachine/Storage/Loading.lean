/-
This file loads scripts and floors from files. A file that the system does not give is reported
with its path, and a file that is no UTF-8 text is not.
-/

import OfficeMachine.Preset
import OfficeMachine.Storage.Directory
import OfficeMachine.Text.Encoding
import OfficeMachine.Text.Line

namespace OfficeMachine.Storage

/-- The files give the bytes at a path or the fault of the system. -/
abbrev Files := Path → Except Fault (List UInt8)

/-- A text is not read if its path holds a null character, or for a fault of the system or of the
encoding. -/
inductive ReadError where
  | nullCharacter
  | fault (fault : Fault)
  | encoding (fault : Text.EncodingFault)
  deriving DecidableEq

/-- The lines of a text that was read all end with a line feed. -/
def readText (files : Files) (path : Path) : Except ReadError String :=
  if path.text.toList.contains '\x00' then .error .nullCharacter
  else
    match files path with
    | .error fault => .error (.fault fault)
    | .ok bytes =>
        match Text.decode bytes with
        | .error fault => .error (.encoding fault)
        | .ok text => .ok (String.ofList (Text.unifyLineEnds text))

inductive LoadError where
  | preset (error : Preset.Error)
  | script (given : String) (fault : Fault)
  | floor (path : Path) (fault : Fault)
  | nullCharacter
  | encoding (fault : Text.EncodingFault)
  deriving DecidableEq

def LoadError.message : LoadError → String
  | .preset error => error.message
  | .script given fault =>
      s!"Could not read script {given}: {fault.message (Path.ofText given)}"
  | .floor path fault => s!"Could not read memory file {path.text}: {fault.message path}"
  | .nullCharacter => "embedded null byte"
  | .encoding fault => fault.message

/-- A load error is expected unless it is about the null character or the encoding. -/
def LoadError.isExpected : LoadError → Bool
  | .preset _ | .script _ _ | .floor _ _ => true
  | .nullCharacter | .encoding _ => false

def ReadError.asLoadError (error : ReadError) (ofFault : Fault → LoadError) : LoadError :=
  match error with
  | .nullCharacter => .nullCharacter
  | .fault reported => ofFault reported
  | .encoding reported => .encoding reported

def loadScript (files : Files) (given : String) : Except LoadError String :=
  (readText files (Path.ofText given)).mapError (·.asLoadError (.script given))

/-- A single token names a file that holds the tokens of a floor. -/
def loadFloor (files : Files) (tokens : List String) : Except LoadError (Table Nat Box) :=
  match tokens with
  | [given] => do
      let path := Path.ofText given
      let text ← (readText files path).mapError (·.asLoadError (.floor path))
      (Preset.tiles (Text.wordTexts text)).mapError .preset
  | _ => (Preset.tiles tokens).mapError .preset

end OfficeMachine.Storage
