import Bindery.Command.Option
import Bindery.Path

/-! # Reading the command line

The arguments in front of the command are read first, then those after it. An option's value follows
it as the next argument or is joined to it: `--model=x`, `-mx`, `-m=x`. Letters of flags can be put
together, and the last letter may take a value.

An option that awaits its value is settled late: when the next option of its level has been
recognized, or at the end. So an argument that is not understood is refused even when the option
before it lacks its value.
-/

namespace Bindery.Command

/-- Why a command line is refused, or what it asks for instead of a command. -/
inductive UsageFault where
  | unknownCommand
  | unknownArgument
  | missingArgument
  | missingCommand
  | nothingGiven
  | helpWanted
  | versionWanted
  /-- A value is missing, or is an empty path. -/
  | invalidValue
  | repeated
  /-- A value is joined to an option that takes none. -/
  | unwantedValue
  deriving DecidableEq, Repr

/-- The files that a command reads. -/
structure Inputs where
  model : Path
  config : Option Path
  schema : Option Path
  typeTables : Option Path
  deriving DecidableEq

/-- A command with its options. -/
inductive Task where
  | generate (inputs : Inputs) (output : Path) (includeDir : Option Path) (backup dryRun : Bool)
  | validate (inputs : Inputs) (verbose : Bool)
  | layout (inputs : Inputs) (className : String)
  deriving DecidableEq

/-- A command line that has been read. -/
structure Arguments where
  task : Task
  logLevel : String
  quiet : Bool
  noColor : Bool
  deriving DecidableEq

/-- What has been read of one level: the options that are settled with their values, the newest
first, and one that is not settled yet. -/
structure Reading where
  settled : List (Switch × String)
  pending : Option (Switch × Option String)
  deriving DecidableEq

namespace Reading

/-- Nothing read. -/
def start : Reading := ⟨[], none⟩

/-- The value that an option was given. -/
def value? (reading : Reading) (switch : Switch) : Option String := reading.settled.lookup switch

/-- Whether an option was given. -/
def has (reading : Reading) (switch : Switch) : Bool := (reading.value? switch).isSome

/-- Settles an option. It must not be settled already, and a path must not be empty. -/
def add (reading : Reading) (switch : Switch) (value : String) : Except UsageFault Reading :=
  if reading.has switch then .error .repeated
  else if switch.takes = .path ∧ value.isEmpty then .error .invalidValue
  else .ok ⟨(switch, value) :: reading.settled, none⟩

/-- Settles the option that waits. -/
def settle (reading : Reading) : Except UsageFault Reading :=
  match reading.pending with
  | none => .ok reading
  | some (_, none) => .error .invalidValue
  | some (switch, some value) => add { reading with pending := none } switch value

/-- Whether the next argument is the value of an option. -/
def awaitsValue (reading : Reading) : Bool :=
  match reading.pending with
  | some (_, none) => true
  | _ => false

/-- Gives the option that waits its value. -/
def give (reading : Reading) (value : String) : Reading :=
  { reading with pending := reading.pending.map fun waiting => (waiting.1, some value) }

/-- Takes a flag in. Two flags ask for something else than a command. -/
def flag (reading : Reading) (switch : Switch) : Except UsageFault Reading := do
  let reading ← reading.settle
  match switch with
  | .help => .error .helpWanted
  | .version => .error .versionWanted
  | switch => reading.add switch ""

/-- Takes an option in that needs a value, which may be joined to it. -/
def option (reading : Reading) (switch : Switch) (joined : Option String) :
    Except UsageFault Reading := do
  let reading ← reading.settle
  match joined with
  | some value => reading.add switch value
  | none => return { reading with pending := some (switch, none) }

/-- An argument that begins with two dashes. -/
def long (reading : Reading) (level : Option Verb) (body : List Char) : Except UsageFault Reading :=
  let name := body.takeWhile (· ≠ '=')
  let joined :=
    match body.drop name.length with
    | _ :: value => some (String.ofList value)
    | [] => none
  match Switch.ofLongName? level (String.ofList name) with
  | none => .error .unknownArgument
  | some switch =>
    if switch.takes = .nothing then
      if joined.isSome then .error .unwantedValue else reading.flag switch
    else reading.option switch joined

/-- The letters of an argument that begins with one dash. -/
def letters (reading : Reading) (level : Option Verb) : List Char → Except UsageFault Reading
  | [] => .ok reading
  | c :: rest =>
    match Switch.ofLetter? level c with
    | none => .error .unknownArgument
    | some switch =>
      if switch.takes = .nothing then do
        let reading ← reading.flag switch
        reading.letters level rest
      else
        reading.option switch <|
          match rest with
          | [] => none
          | '=' :: value => some (String.ofList value)
          | value => some (String.ofList value)

end Reading

/-- Where the arguments of one level end: with the arguments themselves, or with a command. -/
inductive LevelEnd where
  | finished (reading : Reading)
  | verb (reading : Reading) (verb : Verb) (rest : List String)

/-- What the word `help` asks for: help on the program, or on the one command named after it. -/
def helpFault : List String → UsageFault
  | [] => .helpWanted
  | [word] =>
    if word = "help" ∨ (Verb.ofName? word).isSome then .helpWanted else .unknownCommand
  | _ => .unknownCommand

/-- Why an argument is refused that is neither an option nor a value. Commands themselves may not
follow a double dash. -/
def strayFault (level : Option Verb) (onlyValues : Bool) (word : String) : UsageFault :=
  match level with
  | some _ => .unknownArgument
  | none =>
    if onlyValues && (word = "help" || (Verb.ofName? word).isSome) then .unknownArgument
    else .unknownCommand

/-- Reads the arguments of one level. After a double dash (`onlyValues`) there are no options. -/
def readLevel (level : Option Verb) :
    (onlyValues : Bool) → Reading → List String → Except UsageFault LevelEnd
  | _, reading, [] => .ok (.finished reading)
  | true, _, word :: _ => .error (strayFault level true word)
  | false, reading, word :: rest =>
    let verb? := if level.isNone && !reading.awaitsValue then Verb.ofName? word else none
    match verb? with
    | some verb => .ok (.verb reading verb rest)
    | none =>
      if level.isNone && !reading.awaitsValue && word = "help" then .error (helpFault rest)
      else
        let plain (_ : Unit) : Except UsageFault LevelEnd :=
          if reading.awaitsValue then readLevel level false (reading.give word) rest
          else .error (strayFault level false word)
        match word.toList with
        | ['-', '-'] => readLevel level true reading rest
        | '-' :: '-' :: body => do readLevel level false (← reading.long level body) rest
        | ['-'] => plain ()
        | '-' :: letters => do readLevel level false (← reading.letters level letters) rest
        | _ => plain ()

/-- The inputs among the options of a command. -/
def inputsOf (reading : Reading) : Except UsageFault Inputs :=
  let path? (switch : Switch) := (reading.value? switch).map Path.mk
  match path? .model with
  | none => .error .missingArgument
  | some model => .ok ⟨model, path? .config, path? .schema, path? .typeTables⟩

/-- The command that settled options make. -/
def taskOf (verb : Verb) (reading : Reading) : Except UsageFault Task := do
  let inputs ← inputsOf reading
  match verb with
  | .generate =>
    match reading.value? .output with
    | none => .error .missingArgument
    | some output =>
      return .generate inputs ⟨output⟩ ((reading.value? .includeDir).map Path.mk)
        (reading.has .backup) (reading.has .dryRun)
  | .validate => return .validate inputs (reading.has .verbose)
  | .layout =>
    match reading.value? .className with
    | none => .error .missingArgument
    | some className => return .layout inputs className

/-- Reads the arguments of the program. Of a global option that is given in front of the command and
after it, the value after it counts. -/
def readArguments (arguments : List String) : Except UsageFault Arguments := do
  match ← readLevel none false .start arguments with
  | .finished reading =>
    let reading ← reading.settle
    .error (if reading.settled.isEmpty then .nothingGiven else .missingCommand)
  | .verb outer verb rest =>
    match ← readLevel (some verb) false .start rest with
    | .verb _ _ _ => .error .unknownCommand
    | .finished inner =>
      let inner ← inner.settle
      let task ← taskOf verb inner
      let outer ← outer.settle
      return {
        task
        logLevel := ((inner.value? .logLevel).or (outer.value? .logLevel)).getD "info"
        quiet := inner.has .quiet || outer.has .quiet
        noColor := inner.has .noColor || outer.has .noColor }

end Bindery.Command
