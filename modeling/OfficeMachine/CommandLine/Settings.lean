/-
This file reads the settings of a call from the words of its command line.
-/

import OfficeMachine.CommandLine.Switch
import OfficeMachine.Numeral.Count
import OfficeMachine.Text.Quoted

namespace OfficeMachine.CommandLine

/-- A switch is given its argument, or it stays blank because the separator is attached to it. -/
inductive Argument (Content : Type) where
  | given (content : Content)
  | blank
  deriving DecidableEq

structure Settings where
  script : Option String
  inputs : List String
  memory : List String
  lastTile : Option (Argument Nat)
  stepLimit : Argument Nat
  listing : Bool
  verbosity : Nat
  logFile : Option (Argument String)
  log : Bool
  deriving DecidableEq

def defaultStepLimit : Nat := 10000000

def Settings.initial : Settings where
  script := none
  inputs := []
  memory := []
  lastTile := none
  stepLimit := .given defaultStepLimit
  listing := false
  verbosity := 0
  logFile := none
  log := false

/-- A call ends early with a usage error or with a question about the program. -/
inductive EarlyEnd where
  | usage (message : String)
  | help
  | version
  deriving DecidableEq

def Switch.usage (switch : Switch) (message : String) : EarlyEnd :=
  .usage s!"argument {switch.title}: {message}"

def Switch.ignored (switch : Switch) (attached : List Char) : EarlyEnd :=
  switch.usage s!"ignored explicit argument {Text.quoted (String.ofList attached)}"

/-- An order gives a switch its arguments. -/
structure Order where
  switch : Switch
  arguments : List String
  deriving DecidableEq

def Order.argument (order : Order) : Argument String :=
  match order.arguments with
  | [] => .blank
  | text :: _ => .given text

def Order.count (order : Order) : Except EarlyEnd (Argument Nat) :=
  match order.argument with
  | .blank => .ok .blank
  | .given text =>
      match Numeral.count text with
      | .ok number => .ok (.given number)
      | .error error => .error (order.switch.usage error.message)

/-- The last use of a switch counts, and only the verbosity adds up. -/
def Settings.obey (settings : Settings) (order : Order) : Except EarlyEnd Settings :=
  match order.switch with
  | .help => .error .help
  | .version => .error .version
  | .inputs => .ok { settings with inputs := order.arguments }
  | .memory => .ok { settings with memory := order.arguments }
  | .lastTile => do
      let last ← order.count
      return { settings with lastTile := some last }
  | .stepLimit => do
      let limit ← order.count
      return { settings with stepLimit := limit }
  | .listing => .ok { settings with listing := true }
  | .verbose => .ok { settings with verbosity := settings.verbosity + 1 }
  | .logFile => .ok { settings with logFile := some order.argument }
  | .log => .ok { settings with log := true }

/-- The values in front are those up to the next word of another kind. -/
def leadingValues : List Word → List String × List Word
  | .value text :: rest =>
      let (values, others) := leadingValues rest
      (text :: values, others)
  | words => ([], words)

/-- The orders of one word come with the words after their arguments. -/
structure Orders where
  orders : List Order
  rest : List Word

/-- A switch without an attached argument takes the values that follow. -/
def ordersFrom (switch : Switch) (rest : List Word) : Except EarlyEnd Orders :=
  match switch.arity with
  | .none => .ok ⟨[⟨switch, []⟩], rest⟩
  | .one =>
      match rest with
      | .value text :: others => .ok ⟨[⟨switch, [text]⟩], others⟩
      | _ => .error (switch.usage "expected one argument")
  | .several =>
      match leadingValues rest with
      | ([], _) => .error (switch.usage "expected at least one argument")
      | (values, others) => .ok ⟨[⟨switch, values⟩], others⟩

/-- The attached argument is the only one, and the separator is none at all. -/
def attachedArguments (attached : List Char) : List String :=
  if attached = ['-', '-'] then [] else [String.ofList attached]

/-- A switch that takes arguments takes what is attached to it. Behind a short switch that takes
none, the attached letters are short switches themselves. -/
def ordersIn (switch : Switch) (isShort : Bool) (attached : List Char) (rest : List Word) :
    Except EarlyEnd Orders :=
  match switch.arity, attached with
  | .one, _ | .several, _ => .ok ⟨[⟨switch, attachedArguments attached⟩], rest⟩
  | .none, [] => .error (switch.ignored [])
  | .none, letter :: others =>
      match isShort, Switch.ofLetter? letter with
      | true, some next => do
          let following ←
            match others with
            | [] => ordersFrom next rest
            | others => ordersIn next true others rest
          return { following with orders := ⟨switch, []⟩ :: following.orders }
      | _, _ => .error (switch.ignored (letter :: others))

def ordersOf (switch : Switch) (isShort : Bool) (attached : Option (List Char))
    (rest : List Word) : Except EarlyEnd Orders :=
  match attached with
  | none => ordersFrom switch rest
  | some attached => ordersIn switch isShort attached rest

/-- A scan holds the settings so far and the words that belong to nothing. -/
structure Scan where
  settings : Settings
  extras : List String

def Scan.leave (scan : Scan) (texts : List String) : Scan :=
  { scan with extras := scan.extras ++ texts }

def Scan.setScript (scan : Scan) (text : String) : Scan :=
  { scan with settings := { scan.settings with script := some text } }

/-- A value is the script if there is none yet, and then it takes a separator with it. -/
def Scan.value (scan : Scan) (text : String) (rest : List Word) : Scan × List Word :=
  match scan.settings.script, rest with
  | some _, _ => (scan.leave [text], rest)
  | none, .separator :: others => (scan.setScript text, others)
  | none, _ => (scan.setScript text, rest)

/-- A separator goes with the script behind it. -/
def Scan.separator (scan : Scan) (rest : List Word) : Scan × List Word :=
  match scan.settings.script, rest with
  | none, .value text :: others => (scan.setScript text, others)
  | _, _ => (scan.leave ["--"], rest)

/-- All orders of a word are known before the first of them is obeyed. -/
def Scan.use (scan : Scan) (orders : Orders) : Except EarlyEnd Scan := do
  let settings ← orders.orders.foldlM Settings.obey scan.settings
  return { scan with settings := settings }

/-- One word is scanned together with the words that belong to it. -/
def Scan.next (scan : Scan) (word : Word) (rest : List Word) :
    Except EarlyEnd (Scan × List Word) :=
  match word with
  | .value text => .ok (scan.value text rest)
  | .separator => .ok (scan.separator rest)
  | .unknown text => .ok (scan.leave [text], rest)
  | .use switch isShort attached => do
      let orders ← ordersOf switch isShort attached rest
      let scan ← scan.use orders
      return (scan, orders.rest)

/-- A scan of all words takes at most one round for each of them. -/
def Scan.run (scan : Scan) (words : List Word) : Nat → Except EarlyEnd Scan
  | 0 => .ok scan
  | rounds + 1 =>
      match words with
      | [] => .ok scan
      | word :: rest => do
          let (next, others) ← scan.next word rest
          next.run others rounds

/-- A call needs a script and must not leave any word over. -/
def Scan.conclude (scan : Scan) : Except EarlyEnd Settings :=
  if scan.settings.script.isNone then
    .error (.usage "the following arguments are required: script")
  else if scan.extras.isEmpty then .ok scan.settings
  else .error (.usage ("unrecognized arguments: " ++ " ".intercalate scan.extras))

def Settings.read (arguments : List String) : Except EarlyEnd Settings := do
  let words ← (readWords arguments).mapError .usage
  let scan ← (Scan.mk Settings.initial []).run words words.length
  scan.conclude

end OfficeMachine.CommandLine
