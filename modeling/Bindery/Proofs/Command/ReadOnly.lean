import Bindery.Command.Execute
import Bindery.Store.Disk
import Bindery.Proofs.Generator.Effects
import Bindery.Proofs.Generator.Stopping

/-! # Commands that only read

`validate`, `layout` and a dry run of `generate` do nothing with a file system but ask, whatever
they meet on it (`holds_execute`). Every `generate` prepares what it needs before it carries
anything out (`generate_eq`). Main statement: on a machine the former leave the disk as it is,
whether they succeed or fail, and so does a `generate` that fails before it has a plan
(`execute_keepsDisk`).
-/

namespace Bindery.Command

variable {m : Type → Type} [Monad m] {S : Submonad m}

open Handling

section Steps

variable {α : Type}

theorem holds_orFail (stage : Option Stage) (outcome : Except Failure α) :
    (S.withBooks Transcript CommandFault).holds (orFail stage outcome) := by
  cases outcome with
  | ok value => exact (S.withBooks _ _).pure value
  | error failure => exact (S.withState _).holds_throw _

variable [LawfulMonad m]

theorem holds_showLines (lines : List Line) :
    (S.withBooks Transcript CommandFault).holds (showLines lines) := S.holds_book _

theorem holds_log (records : List Record) :
    (S.withBooks Transcript CommandFault).holds (log records) := S.holds_book _

theorem holds_ask {operation : m α} (holds : S.holds operation) :
    (S.withBooks Transcript CommandFault).holds (ask operation) :=
  (S.withState _).holds_liftExcept (S.holds_lift holds)

theorem holds_demand {operation : ExceptT Failure m α} (stage : Option Stage)
    (holds : (S.withFailures Failure).holds operation) :
    (S.withBooks Transcript CommandFault).holds (demand stage operation) :=
  (S.withBooks _ _).bind (holds_ask holds) fun _ => holds_orFail _ _

theorem holds_follow (computation : Logged α) :
    (S.withBooks Transcript CommandFault).holds (follow computation) :=
  (S.withBooks _ _).bind (holds_log _) fun _ => holds_orFail _ _

end Steps

section Commands

variable [LawfulMonad m] {fs : FileSystem m} (queries : fs.Queries S)
include queries

theorem holds_checkInputs (paths : List Path) :
    (S.withBooks Transcript CommandFault).holds (checkInputs fs paths) := by
  induction paths with
  | nil => exact (S.withBooks _ _).pure _
  | cons path rest ih =>
    refine (S.withBooks _ _).bind (holds_ask (queries.pathExists path)) fun found => ?_
    split
    · exact ih
    · exact (S.withState _).holds_throw _

theorem holds_checkPlaces (output : Path) (includeDir : Option Path) :
    (S.withBooks Transcript CommandFault).holds (checkPlaces fs output includeDir) := by
  let T := S.withBooks Transcript CommandFault
  have checksOutput : T.holds (do
      if ← ask (fs.pathExists output) then
        if !(← ask (fs.isDirectory output)) then throw (.outputNotDirectory output)) := by
    refine T.bind (holds_ask (queries.pathExists _)) fun found => ?_
    split
    · refine T.bind (holds_ask (queries.isDirectory _)) fun isDirectory => ?_
      split
      · exact (S.withState _).holds_throw _
      · exact T.pure _
    · exact T.pure _
  cases includeDir with
  | none => exact checksOutput
  | some dir =>
    refine T.bind (holds_ask (queries.isDirectory _)) fun isDirectory => ?_
    exact T.holds_when ((S.withState _).holds_throw _) fun _ => checksOutput

theorem holds_loadSettings (inputs : Inputs) :
    (S.withBooks Transcript CommandFault).holds (loadSettings fs inputs) := by
  let T := S.withBooks Transcript CommandFault
  unfold loadSettings
  cases inputs.config with
  | none => exact T.bind (T.pure _) fun _ => T.pure _
  | some path =>
    exact T.bind (holds_demand _ (Generator.holds_loadSettings queries path)) fun _ => T.pure _

theorem holds_load (inputs : Inputs) :
    (S.withBooks Transcript CommandFault).holds (load fs inputs) := by
  let T := S.withBooks Transcript CommandFault
  refine T.bind (holds_checkInputs queries _) fun _ => ?_
  refine T.bind (holds_loadSettings queries _) fun settings => ?_
  refine T.bind (holds_demand _ (Generator.holds_loadDocument queries _ _)) fun api => ?_
  exact T.bind (holds_log _) fun _ => T.pure _

theorem holds_loadGenerator (settings : Settings) :
    (S.withBooks Transcript CommandFault).holds (loadGenerator fs settings) := by
  let T := S.withBooks Transcript CommandFault
  refine T.bind (holds_log _) fun _ => ?_
  refine T.bind (holds_demand _ (Generator.holds_loadClassification queries _)) fun _ => ?_
  refine T.bind (holds_log _) fun _ => ?_
  exact T.bind (holds_demand _ (Generator.holds_loadDictionary queries _)) fun _ => T.pure _

theorem holds_validate (inputs : Inputs) (verbose quiet : Bool) :
    (S.withBooks Transcript CommandFault).holds (validate fs inputs verbose quiet) := by
  let T := S.withBooks Transcript CommandFault
  refine T.bind (holds_load queries _) fun loaded => ?_
  refine T.bind (holds_loadGenerator queries _) fun g => ?_
  refine T.bind (holds_follow _) fun report => ?_
  split
  · refine T.bind (holds_showLines _) fun _ => ?_
    split
    · exact holds_showLines _
    · exact T.pure _
  · exact T.pure _

theorem holds_showLayout (inputs : Inputs) (className : String) :
    (S.withBooks Transcript CommandFault).holds (showLayout fs inputs className) := by
  let T := S.withBooks Transcript CommandFault
  refine T.bind (holds_load queries _) fun loaded => ?_
  refine T.bind (holds_loadGenerator queries _) fun g => ?_
  refine T.bind (holds_follow _) fun layouts => ?_
  split
  · exact holds_showLines _
  · exact (S.withState _).holds_throw _

end Commands

section Generating

variable {m : Type → Type} [Monad m]

/-- What `generate` does before it writes anything: it checks its arguments and reads its inputs.
Answers the generator, the interface and the books to begin with. -/
def prepare (fs : FileSystem m) (inputs : Inputs) (root : Path) (includeDir : Option Path)
    (backup : Bool) : Handling m (Generator × NativeApi × Output) := do
  checkInputs fs inputs.paths
  checkPlaces fs root includeDir
  let (settings, api) ← load fs inputs
  let keepsBackups := settings.keepsBackups || backup
  let g ← loadGenerator fs { settings with keepsBackups }
  let headers ← match includeDir with
    | some dir => some <$> demand (some (.loadingHeaders dir)) (Generator.loadHeaders fs dir)
    | none => pure none
  return ({ g with headers }, api, .fresh root keepsBackups)

/-- What `generate` does with what it has prepared. -/
def finish (fs : FileSystem m) (prepared : Generator × NativeApi × Output) (dryRun quiet : Bool) :
    Handling m Unit := do
  if !quiet then showLines [.heading "Generating interop files..."]
  let output ← runGenerator fs prepared.1 prepared.2.1 prepared.2.2 dryRun quiet
  if !quiet then showLines [.result output.summary, .finished]

variable [LawfulMonad m]

theorem generate_eq (fs : FileSystem m) (inputs : Inputs) (root : Path) (includeDir : Option Path)
    (backup dryRun quiet : Bool) :
    generate fs inputs root includeDir backup dryRun quiet =
      prepare fs inputs root includeDir backup >>= fun prepared =>
        finish fs prepared dryRun quiet := by
  cases includeDir with
  | none => simp only [generate, prepare, finish, bind_assoc, pure_bind]
  | some dir => simp only [generate, prepare, finish, bind_assoc, pure_bind]

end Generating

section Reading

variable [LawfulMonad m] {fs : FileSystem m} (queries : fs.Queries S)
include queries

theorem holds_prepare (inputs : Inputs) (root : Path) (includeDir : Option Path) (backup : Bool) :
    (S.withBooks Transcript CommandFault).holds (prepare fs inputs root includeDir backup) := by
  let T := S.withBooks Transcript CommandFault
  refine T.bind (holds_checkInputs queries _) fun _ => ?_
  refine T.bind (holds_checkPlaces queries _ _) fun _ => ?_
  refine T.bind (holds_load queries _) fun loaded => ?_
  refine T.bind (holds_loadGenerator queries _) fun g => ?_
  cases includeDir with
  | none => exact T.bind (T.pure _) fun _ => T.pure _
  | some dir =>
    have headers :=
      holds_demand (some (.loadingHeaders dir)) (Generator.holds_loadHeaders queries dir)
    exact T.bind (T.holds_map headers _) fun _ => T.pure _

/-- What a dry run writes stays in front of the file system. -/
theorem holds_runGenerator_dry (g : Generator) (api : NativeApi) (output : Output) (quiet : Bool) :
    (S.withBooks Transcript CommandFault).holds (runGenerator fs g api output true quiet) := by
  let T := S.withBooks Transcript CommandFault
  have ran : S.holds (((g.run api fs.dryRunStore).run.run ⟨output, []⟩).run Memory.empty) :=
    Generator.holds_run queries.dryRunStore g api ⟨output, []⟩ Memory.empty
  refine T.bind (holds_ask ran) fun ended => ?_
  refine T.bind (holds_log _) fun _ => ?_
  refine T.bind (holds_orFail _ _) fun count => ?_
  exact T.holds_when (holds_showLines _) fun _ => T.pure _

/-- Whether a command writes no files of its own. -/
def Task.onlyReads : Task → Bool
  | .generate _ _ _ _ dryRun => dryRun
  | .validate _ _ => true
  | .layout _ _ => true

/-- A command that writes no files does nothing with a file system but ask. -/
theorem holds_execute {arguments : Arguments} (reads : arguments.task.onlyReads = true) :
    (S.withBooks Transcript CommandFault).holds (execute fs arguments) := by
  let T := S.withBooks Transcript CommandFault
  obtain ⟨task, logLevel, quiet, noColor⟩ := arguments
  cases task with
  | validate inputs verbose => exact holds_validate queries inputs verbose quiet
  | layout inputs className => exact holds_showLayout queries inputs className
  | generate inputs root includeDir backup dryRun =>
    obtain rfl : dryRun = true := reads
    have finishes (prepared : Generator × NativeApi × Output) :
        T.holds (finish fs prepared true quiet) := by
      unfold finish
      refine T.holds_when (holds_showLines _) fun _ => ?_
      refine T.bind (holds_runGenerator_dry queries _ _ _ _) fun output => ?_
      split
      · exact holds_showLines _
      · exact T.pure _
    have generated : T.holds (generate fs inputs root includeDir backup true quiet) := by
      rw [generate_eq]
      exact T.bind (holds_prepare queries _ _ _ _) finishes
    exact generated

end Reading

/-! ## Commands on a machine -/

/-- What a computation of a command on a world ends with. -/
def Handling.inWorld {σ α : Type} (computation : Handling (StateM σ) α) (transcript : Transcript)
    (world : σ) : (Except CommandFault α × Transcript) × σ :=
  Id.run ((computation.run.run transcript).run world)

namespace Handling

variable {σ α β : Type} {first : Handling (StateM σ) α} {transcript later : Transcript}
  {world after : σ}

theorem inWorld_bind_of_ok {value : α}
    (ended : first.inWorld transcript world = ((.ok value, later), after))
    (next : α → Handling (StateM σ) β) :
    (first >>= next).inWorld transcript world = (next value).inWorld later after :=
  run_bind_of_ok ended next

theorem inWorld_bind_of_error {fault : CommandFault}
    (ended : first.inWorld transcript world = ((.error fault, later), after))
    (next : α → Handling (StateM σ) β) :
    (first >>= next).inWorld transcript world = ((.error fault, later), after) :=
  run_bind_of_error ended next

end Handling

/-- Without a plan, a run fails before it writes anything. -/
theorem inWorld_runGenerator_of_unplanned {σ : Type} {fs : FileSystem (StateM σ)} {g : Generator}
    {api : NativeApi} {failure : Failure} (failed : (g.plan api).outcome = .error failure)
    (output : Output) (quiet : Bool) (transcript : Transcript) (world : σ) : ∃ later,
    (runGenerator fs g api output false quiet).inWorld transcript world =
      ((.error (.failed none failure), later), world) := by
  have ran : (g.run api fs.store).inWorld ⟨output, []⟩ world =
      ((.error failure, g.noted api ⟨output, []⟩), world) :=
    Generator.inWorld_run_of_unplanned failed ⟨output, []⟩ world
  have asked : (ask ((g.run api fs.store).run.run ⟨output, []⟩)).inWorld transcript world =
      ((.ok (.error failure, g.noted api ⟨output, []⟩), transcript), world) :=
    congrArg (fun ended => ((Except.ok ended.1, transcript), ended.2)) ran
  rw [runGenerator, if_neg Bool.false_ne_true, inWorld_bind_of_ok asked]
  exact ⟨_, rfl⟩

theorem inWorld_finish_of_unplanned {σ : Type} {fs : FileSystem (StateM σ)} {g : Generator}
    {api : NativeApi} {failure : Failure} (failed : (g.plan api).outcome = .error failure)
    (output : Output) (quiet : Bool) (transcript : Transcript) (world : σ) : ∃ later,
    (finish fs (g, api, output) false quiet).inWorld transcript world =
      ((.error (.failed none failure), later), world) := by
  unfold finish
  cases quiet with
  | true =>
    obtain ⟨later, ended⟩ := inWorld_runGenerator_of_unplanned failed output true transcript world
    exact ⟨later, inWorld_bind_of_error ended _⟩
  | false =>
    let headed : Transcript :=
      { transcript with lines := transcript.lines ++ [.heading "Generating interop files..."] }
    have shown : (showLines [.heading "Generating interop files..."]).inWorld transcript world =
        ((.ok (), headed), world) := rfl
    obtain ⟨later, ended⟩ := inWorld_runGenerator_of_unplanned failed output false headed world
    exact ⟨later, (inWorld_bind_of_ok shown _).trans (inWorld_bind_of_error ended _)⟩

/-- Computations on a machine that leave the disk as it is. -/
def keepsDisk : Submonad (StateM Machine) where
  holds computation := ∀ machine, (Id.run (computation.run machine)).2.disk = machine.disk
  pure _ _ := rfl
  bind first next machine := (next _ _).trans (first machine)

theorem queries_keepsDisk : Machine.fileSystem.Queries keepsDisk where
  pathExists _ _ := rfl
  isDirectory _ _ := rfl
  readText _ _ := rfl
  seconds _ := rfl
  nameBound _ := rfl

/-- How a command on a machine ends. -/
def ending (arguments : Arguments) (machine : Machine) :
    (Except CommandFault Unit × Transcript) × Machine :=
  Id.run ((perform Machine.fileSystem arguments).run machine)

/-- What `generate` on a machine has prepared, or why it could not. -/
def prepared (machine : Machine) (inputs : Inputs) (root : Path) (includeDir : Option Path)
    (backup : Bool) : Except CommandFault (Generator × NativeApi × Output) :=
  ((prepare Machine.fileSystem inputs root includeDir backup).inWorld ⟨[], []⟩ machine).1.1

theorem ending_generate (inputs : Inputs) (root : Path) (includeDir : Option Path)
    (backup dryRun : Bool) (logLevel : String) (quiet noColor : Bool) (machine : Machine) :
    ending ⟨.generate inputs root includeDir backup dryRun, logLevel, quiet, noColor⟩ machine =
      (prepare Machine.fileSystem inputs root includeDir backup >>= fun prepared =>
        finish Machine.fileSystem prepared dryRun quiet).inWorld ⟨[], []⟩ machine := by
  rw [← generate_eq]
  rfl

/-- Whatever comes of preparing, the disk is as it was. -/
theorem exists_inWorld_prepare (machine : Machine) (inputs : Inputs) (root : Path)
    (includeDir : Option Path) (backup : Bool) : ∃ later after,
    (prepare Machine.fileSystem inputs root includeDir backup).inWorld ⟨[], []⟩ machine =
        ((prepared machine inputs root includeDir backup, later), after) ∧
      after.disk = machine.disk :=
  ⟨_, _, rfl, holds_prepare queries_keepsDisk inputs root includeDir backup ⟨[], []⟩ machine⟩

/-- A command leaves the disk as it is when it is one that only reads, and when it fails before it
has a plan to carry out. -/
structure KeepsDisk (arguments : Arguments) (machine : Machine) : Prop where
  reading : arguments.task.onlyReads = true →
    (ending arguments machine).2.disk = machine.disk
  unprepared : ∀ inputs root includeDir backup dryRun fault,
    arguments.task = .generate inputs root includeDir backup dryRun →
    prepared machine inputs root includeDir backup = .error fault →
      (ending arguments machine).1.1 = .error fault ∧
        (ending arguments machine).2.disk = machine.disk
  unplanned : ∀ inputs root includeDir backup g api output failure,
    arguments.task = .generate inputs root includeDir backup false →
    prepared machine inputs root includeDir backup = .ok (g, api, output) →
    (g.plan api).outcome = .error failure →
      (ending arguments machine).1.1 = .error (.failed none failure) ∧
        (ending arguments machine).2.disk = machine.disk

/-- Every command keeps every disk in this way. -/
theorem execute_keepsDisk (arguments : Arguments) (machine : Machine) :
    KeepsDisk arguments machine where
  reading reads := holds_execute queries_keepsDisk reads ⟨[], []⟩ machine
  unprepared inputs root includeDir backup dryRun fault isGenerate failed := by
    obtain ⟨task, logLevel, quiet, noColor⟩ := arguments
    obtain rfl := isGenerate
    obtain ⟨later, after, stopped, same⟩ :=
      exists_inWorld_prepare machine inputs root includeDir backup
    rw [failed] at stopped
    rw [ending_generate, inWorld_bind_of_error stopped]
    exact ⟨rfl, same⟩
  unplanned inputs root includeDir backup g api output failure isGenerate ready failed := by
    obtain ⟨task, logLevel, quiet, noColor⟩ := arguments
    obtain rfl := isGenerate
    obtain ⟨later, after, reached, same⟩ :=
      exists_inWorld_prepare machine inputs root includeDir backup
    rw [ready] at reached
    obtain ⟨last, ended⟩ := inWorld_finish_of_unplanned failed output quiet later after
    rw [ending_generate, inWorld_bind_of_ok reached, ended]
    exact ⟨rfl, same⟩

end Bindery.Command
