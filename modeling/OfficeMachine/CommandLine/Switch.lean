/-
This file defines the switches of the command line and sorts its words. A switch may be shortened
to a beginning that no other one has, a single letter may be followed by its argument, and a word
that looks like a negative number is a value.
-/

import OfficeMachine.Numeral.DigitTable
import OfficeMachine.Text.Blank

namespace OfficeMachine.CommandLine

inductive Switch where
  | help
  | inputs
  | memory
  | lastTile
  | stepLimit
  | listing
  | verbose
  | logFile
  | log
  | version
  deriving DecidableEq

/-- A switch takes no argument, one argument or at least one. -/
inductive Arity where
  | none
  | one
  | several
  deriving DecidableEq

namespace Switch

def all : List Switch :=
  [.help, .inputs, .memory, .lastTile, .stepLimit, .listing, .verbose, .logFile, .log, .version]

def spellings : Switch → List String
  | .help => ["-h", "--help"]
  | .inputs => ["-i", "--inputs"]
  | .memory => ["-m", "--memory"]
  | .lastTile => ["-M", "--max-mem"]
  | .stepLimit => ["--max-steps"]
  | .listing => ["--listing"]
  | .verbose => ["-v", "--verbose"]
  | .logFile => ["--log-file"]
  | .log => ["--log"]
  | .version => ["--version"]

def arity : Switch → Arity
  | .help | .listing | .verbose | .log | .version => .none
  | .lastTile | .stepLimit | .logFile => .one
  | .inputs | .memory => .several

/-- Messages name a switch by all its spellings. -/
def title (switch : Switch) : String := "/".intercalate switch.spellings

/-- Every spelling stands beside its switch. -/
def table : List (String × Switch) :=
  all.flatMap fun switch => switch.spellings.map fun spelling => (spelling, switch)

def ofSpelling? (spelling : String) : Option Switch :=
  (table.find? fun row => row.1 = spelling).map Prod.snd

def ofLetter? (letter : Char) : Option Switch := ofSpelling? (String.ofList ['-', letter])

end Switch

/-- A word is a value, the separator behind which all words are values, the use of a switch or an
unknown switch. An argument may be attached to the switch in the same word. -/
inductive Word where
  | value (text : String)
  | separator
  | use (switch : Switch) (isShort : Bool) (attached : Option (List Char))
  | unknown (text : String)
  deriving DecidableEq

/-- A negative number has digits behind its sign and at most one point in front of the last of
them. A line feed may end it. -/
def isNegativeNumber : List Char → Bool
  | '-' :: rest =>
      let body := if rest.getLast? = some '\n' then rest.dropLast else rest
      let isDigit (character : Char) : Bool := (Numeral.digitValue? character).isSome
      match body.dropWhile isDigit with
      | [] => !body.isEmpty
      | '.' :: places => !places.isEmpty && places.all isDigit
      | _ => false
  | _ => false

/-- The first equals sign divides a word. -/
def splitEquals (text : List Char) : List Char × Option (List Char) :=
  match text.dropWhile (· ≠ '=') with
  | [] => (text, none)
  | _ :: rest => (text.takeWhile (· ≠ '='), some rest)

/-- A word that names no switch is a value if it is a negative number or has a space in it. -/
def plainWord (text : String) : Word :=
  if isNegativeNumber text.toList || text.toList.contains ' ' then .value text
  else .unknown text

/-- A long switch may be shortened to the beginning of one spelling. -/
def longWord (text : String) : Except String Word :=
  let (beginning, attached) := splitEquals text.toList
  let candidates := Switch.table.filter fun row => beginning.isPrefixOf row.1.toList
  match candidates with
  | [] => .ok (plainWord text)
  | [(_, switch)] => .ok (.use switch false attached)
  | _ =>
      .error (s!"ambiguous option: {text} could match " ++
        ", ".intercalate (candidates.map Prod.fst))

/-- A short switch may have its argument directly behind it. -/
def shortWord (text : String) : Word :=
  match text.toList with
  | _ :: letter :: rest =>
      match Switch.ofLetter? letter with
      | some switch => .use switch true (some rest)
      | none => plainWord text
  | _ => plainWord text

/-- A spelling before an equals sign is read before any shortened one. -/
def switchWord (text : String) : Except String Word :=
  let (beginning, attached) := splitEquals text.toList
  let isLong := ['-', '-'].isPrefixOf text.toList
  match Switch.ofSpelling? (String.ofList beginning) with
  | some switch => .ok (.use switch (!isLong) attached)
  | none => if isLong then longWord text else .ok (shortWord text)

/-- A word without a hyphen in front, and the single hyphen, are values. -/
def Word.ofText (text : String) : Except String Word :=
  match text.toList with
  | '-' :: _ :: _ => switchWord text
  | _ => .ok (.value text)

/-- All words behind the separator are values. -/
def readWords : List String → Except String (List Word)
  | [] => .ok []
  | "--" :: rest => .ok (.separator :: rest.map .value)
  | text :: rest => do
      let word ← Word.ofText text
      let words ← readWords rest
      return word :: words

end OfficeMachine.CommandLine
