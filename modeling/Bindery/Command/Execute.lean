import Bindery.Command.Arguments
import Bindery.Generator.Report
import Bindery.Generator.Run
import Bindery.Text.Quoted

/-! # Executing commands

A command reads its inputs from a file system and shows lines. Checks of the arguments come first,
then the documents are read in a fixed order, and only then is anything generated. What a command
shows and what it writes to the log before it fails is kept.
-/

namespace Bindery.Command

/-- Where a failure was met that is told with its surroundings. -/
inductive Stage where
  | loadingSettings (path : Path)
  | loadingModel (path : Path)
  | loadingHeaders (dir : Path)
  deriving DecidableEq

/-- A stage in words. -/
def Stage.message : Stage → String
  | .loadingSettings path => "Failed to load config " ++ quoted path.spelling
  | .loadingModel path => "Failed to load model " ++ quoted path.spelling
  | .loadingHeaders dir => "Failed to read version headers from " ++ quoted dir.spelling

/-- Why a command fails. -/
inductive CommandFault where
  | missingInput (path : Path)
  | missingIncludeDir (path : Path)
  | outputNotDirectory (path : Path)
  | unknownClass (name : String)
  | failed (stage : Option Stage) (failure : Failure)
  deriving DecidableEq

/-- What caused a failure, where that has a text of its own. -/
def Failure.causes : Failure → List String
  | .file fault => [fault.message]
  | .document fault => [fault.message]
  | _ => []

/-- The text of a fault and of its causes, outermost first. -/
def CommandFault.chain : CommandFault → List String
  | .missingInput path => ["Input file does not exist: " ++ quoted path.spelling]
  | .missingIncludeDir path => ["Include directory does not exist: " ++ quoted path.spelling]
  | .outputNotDirectory path => ["Output root is not a directory: " ++ quoted path.spelling]
  | .unknownClass name => [s!"Class not found: {name}"]
  | .failed stage failure =>
    (stage.map Stage.message).toList ++ [failure.message] ++ Failure.causes failure

/-- A line that a command shows. -/
inductive Line where
  | heading (text : String)
  /-- A result, with a mark in front of it. -/
  | result (text : String)
  /-- Something to note, with another mark in front of it. -/
  | remark (text : String)
  | item (text : String)
  | unmapped (native : String)
  | plain (text : String)
  /-- The time that the command took. -/
  | finished
  deriving DecidableEq

/-- A line as text, given the time that the command took. -/
def Line.text (elapsed : String) : Line → String
  | .heading text => text
  | .result text => s!"[+] {text}"
  | .remark text => s!"[*] {text}"
  | .item text => s!"  {text}"
  | .unmapped native => s!"  unmapped: {native}"
  | .plain text => text
  | .finished => s!"[+] Finished in {elapsed}"

/-- What a command has shown and logged. -/
structure Transcript where
  lines : List Line
  records : List Record
  deriving DecidableEq

/-- Computations of a command. -/
abbrev Handling (m : Type → Type) := ExceptT CommandFault (StateT Transcript m)

namespace Handling

variable {m : Type → Type} [Monad m]

/-- Shows lines. -/
def showLines (lines : List Line) : Handling m Unit :=
  modifyThe Transcript fun transcript => { transcript with lines := transcript.lines ++ lines }

/-- Writes log records. -/
def log (records : List Record) : Handling m Unit :=
  modifyThe Transcript fun transcript =>
    { transcript with records := transcript.records ++ records }

/-- Runs an operation of the file system. -/
def ask {α : Type} (operation : m α) : Handling m α := ExceptT.lift (StateT.lift operation)

/-- Passes on a result, or a failure with the stage at which it was met. -/
def orFail {α : Type} (stage : Option Stage) (outcome : Except Failure α) : Handling m α :=
  match outcome with
  | .ok value => return value
  | .error failure => throw (.failed stage failure)

/-- Runs an operation of the file system that may fail. -/
def demand {α : Type} (stage : Option Stage) (operation : ExceptT Failure m α) : Handling m α := do
  orFail stage (← ask operation.run)

/-- Runs a computation that only writes records. -/
def follow {α : Type} (computation : Logged α) : Handling m α := do
  log computation.records
  orFail none computation.outcome

end Handling

open Handling

variable {m : Type → Type} [Monad m]

/-- The paths of the inputs that are given. -/
def Inputs.paths (inputs : Inputs) : List Path :=
  inputs.model :: inputs.config.toList ++ inputs.schema.toList ++ inputs.typeTables.toList

/-- Refuses inputs of which one is not there. -/
def checkInputs (fs : FileSystem m) : List Path → Handling m Unit
  | [] => pure ()
  | path :: rest => do
    if ← ask (fs.pathExists path) then checkInputs fs rest else throw (.missingInput path)

/-- Refuses places that are not what they should be. -/
def checkPlaces (fs : FileSystem m) (output : Path) (includeDir : Option Path) :
    Handling m Unit := do
  if let some dir := includeDir then
    if !(← ask (fs.isDirectory dir)) then throw (.missingIncludeDir dir)
  if ← ask (fs.pathExists output) then
    if !(← ask (fs.isDirectory output)) then throw (.outputNotDirectory output)

/-- Settings as the inputs have it: from a document or by default, with the tables that are given
beside them. -/
def loadSettings (fs : FileSystem m) (inputs : Inputs) : Handling m Settings := do
  let settings ← match inputs.config with
    | some path => demand (some (.loadingSettings path)) (Generator.loadSettings fs path)
    | none => pure Settings.default
  return { settings with
    classificationFile := inputs.schema.or settings.classificationFile
    dictionaryFile := inputs.typeTables.or settings.dictionaryFile }

/-- The settings and the interface of a command. -/
def load (fs : FileSystem m) (inputs : Inputs) : Handling m (Settings × NativeApi) := do
  checkInputs fs inputs.paths
  let settings ← loadSettings fs inputs
  let api ← demand (some (.loadingModel inputs.model))
    (Generator.loadDocument fs NativeApi.ofText inputs.model)
  log [⟨.debug, s!"model: {api.classes.length} classes, {api.functions.length} functions"⟩]
  return (settings, api)

/-- The generator of settings. Each table that is read from a file is noted before it is read. -/
def loadGenerator (fs : FileSystem m) (settings : Settings) : Handling m Generator := do
  log (settings.classificationFile.toList.map fun path =>
    ⟨.debug, s!"loading classification schema from {path.text}"⟩)
  let classification ← demand none (Generator.loadClassification fs settings.classificationFile)
  log (settings.dictionaryFile.toList.map fun path =>
    ⟨.debug, s!"loading type tables from {path.text}"⟩)
  let dictionary ← demand none (Generator.loadDictionary fs settings.dictionaryFile)
  return .plain settings classification dictionary

/-- The lines that announce what a dry run would write. -/
def pendingLines (count : Nat) (memory : Memory) : List Line :=
  .remark s!"Dry run: {count} file(s) would change" ::
    memory.paths.map fun path => .item path.text

/-- Runs a generator on a file system, or, for a dry run, in front of it. -/
def runGenerator (fs : FileSystem m) (g : Generator) (api : NativeApi) (output : Output)
    (dryRun quiet : Bool) : Handling m Output := do
  if dryRun then
    let ((outcome, journal), memory) ←
      ask (((g.run api fs.dryRunStore).run.run ⟨output, []⟩).run Memory.empty)
    log journal.records
    let count ← orFail none outcome
    if !quiet then showLines (pendingLines count memory)
    return journal.output
  else
    let (outcome, journal) ← ask ((g.run api fs.store).run.run ⟨output, []⟩)
    log journal.records
    let _ ← orFail none outcome
    return journal.output

/-- Generates all files. -/
def generate (fs : FileSystem m) (inputs : Inputs) (root : Path) (includeDir : Option Path)
    (backup dryRun quiet : Bool) : Handling m Unit := do
  checkInputs fs inputs.paths
  checkPlaces fs root includeDir
  let (settings, api) ← load fs inputs
  let keepsBackups := settings.keepsBackups || backup
  let g ← loadGenerator fs { settings with keepsBackups }
  let headers ← match includeDir with
    | some dir => some <$> demand (some (.loadingHeaders dir)) (Generator.loadHeaders fs dir)
    | none => pure none
  if !quiet then showLines [.heading "Generating interop files..."]
  let output ← runGenerator fs { g with headers } api (.fresh root keepsBackups) dryRun quiet
  if !quiet then showLines [.result output.summary, .finished]

/-- Checks an interface and shows the report. -/
def validate (fs : FileSystem m) (inputs : Inputs) (verbose quiet : Bool) : Handling m Unit := do
  let (settings, api) ← load fs inputs
  let g ← loadGenerator fs settings
  let report ← follow (g.check api)
  if !quiet then
    showLines [.result report.display]
    if verbose then showLines (report.unmapped.map .unmapped)

/-- Shows the layout of the first class, by name, that has a name of either kind. All layouts have
to be computable. -/
def showLayout (fs : FileSystem m) (inputs : Inputs) (className : String) : Handling m Unit := do
  let (settings, api) ← load fs inputs
  let g ← loadGenerator fs settings
  let layouts ← follow (g.layouts (g.completed api))
  match layouts.find? fun entry => entry.1.name = className || entry.1.abiName = className with
  | some (_, layout) => showLines (layout.displayLines.map .plain)
  | none => throw (.unknownClass className)

/-- Executes a command. -/
def execute (fs : FileSystem m) (arguments : Arguments) : Handling m Unit :=
  match arguments.task with
  | .generate inputs output includeDir backup dryRun =>
    generate fs inputs output includeDir backup dryRun arguments.quiet
  | .validate inputs verbose => validate fs inputs verbose arguments.quiet
  | .layout inputs className => showLayout fs inputs className

/-- Executes a command from nothing: how it ends, and what it has shown and logged. -/
def perform (fs : FileSystem m) (arguments : Arguments) :
    m (Except CommandFault Unit × Transcript) :=
  (execute fs arguments).run.run ⟨[], []⟩

end Bindery.Command
