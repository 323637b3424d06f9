import Bindery.Command.Execute
import Bindery.Duration
import Std.Time.DateTime.Timestamp

/-! # The program

The part that touches the world: it gives commands the files and the clock of the system, prints
what they show, writes what they log to the error stream, and turns how they end into an exit code.
-/

namespace Bindery

/-- What an error of the system means for a file. -/
def FileFault.ofError : IO.Error → FileFault
  | .noFileOrDirectory _ _ _ => .notFound
  | .alreadyExists _ _ _ => .alreadyExists
  | .inappropriateType _ code details =>
    if code = 20 then .notDirectory else if code = 21 then .isDirectory else .other details
  | .invalidArgument _ code details => if code = 36 then .nameTooLong else .other details
  | error => .other (toString error)

/-- Runs an action on files, with its errors as faults. -/
def attemptFile {α : Type} (action : IO α) : IO (Except FileFault α) := do
  try
    return .ok (← action)
  catch error =>
    return .error (.ofError error)

/-- The seconds since the epoch. -/
def unixSeconds : IO Nat := do
  return (← Std.Time.Timestamp.now).toSecondsSinceUnixEpoch.val.toNat

/-- The files and the clock of the system. -/
def systemFiles : FileSystem IO where
  pathExists path := do
    try
      let _ ← IO.FS.realPath path.text
      return true
    catch _ => return false
  isDirectory path := do
    try
      return ← (← IO.FS.realPath path.text).isDir
    catch _ => return false
  readText path := do
    match ← attemptFile (IO.FS.readBinFile path.text) with
    | .ok bytes =>
      match String.fromUTF8? bytes with
      | some text => return .ok text
      | none => return .error .notText
    | .error fault => return .error fault
  makeParents path :=
    if path.parent.text.isEmpty then return .ok ()
    else attemptFile (IO.FS.createDirAll path.parent.text)
  writeText path content := attemptFile (IO.FS.writeFile path.text content)
  seconds := unixSeconds
  nameBound := return 4294967296

namespace Command

/-- How the program is called. -/
def usage : String :=
  "Usage: bindery [OPTIONS] <COMMAND>\n\nCommands:\n" ++
    "  generate  Regenerate every interop file under the output root\n" ++
    "  validate  Check roles, inheritance, and type coverage without writing\n" ++
    "  layout    Print the vtable layout of one class\n"

/-- What is said to a command line that is refused, and the exit code. -/
def UsageFault.answer : UsageFault → String × UInt32
  | .helpWanted => (usage, 0)
  | .versionWanted => ("bindery 1.0.0\n", 0)
  | .unknownCommand => ("error: unrecognized subcommand\n\n" ++ usage, 2)
  | .unknownArgument => ("error: unexpected argument\n\n" ++ usage, 2)
  | .missingArgument => ("error: a required argument was not provided\n\n" ++ usage, 2)
  | .missingCommand => ("error: a subcommand is required\n\n" ++ usage, 2)
  | .nothingGiven => (usage, 2)
  | .invalidValue => ("error: an option has no valid value\n\n" ++ usage, 2)
  | .repeated => ("error: an option is used more than once\n\n" ++ usage, 2)
  | .unwantedValue => ("error: a flag has a value\n\n" ++ usage, 2)

/-- Executes a command on the system. -/
def executeOnSystem (arguments : Arguments) : IO UInt32 := do
  let started ← IO.monoNanosNow
  let (result, transcript) ← perform systemFiles arguments
  let spent := (← IO.monoNanosNow) - started
  let elapsed := Duration.ofParts (spent / 1000000000).toUInt64 (spent % 1000000000).toUInt32
  for line in transcript.lines do
    IO.println (line.text elapsed.display)
  IO.eprint (logText (LevelFilter.ofName arguments.logLevel) transcript.records)
  match result with
  | .ok _ => return 0
  | .error fault =>
    IO.eprintln ("[!] " ++ ": ".intercalate fault.chain)
    return 1

end Command

end Bindery

/-- Reads the command line and executes the command. -/
def main (arguments : List String) : IO UInt32 := do
  match Bindery.Command.readArguments arguments with
  | .ok arguments => Bindery.Command.executeOnSystem arguments
  | .error fault =>
    let (text, code) := fault.answer
    if code = 0 then IO.print text else IO.eprint text
    return code
