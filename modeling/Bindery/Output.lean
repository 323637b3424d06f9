import Bindery.Log
import Bindery.Store
import Bindery.Text.Sorted

/-! # Output

An output writes generated files below a root, each only where it differs from what is there. It
counts what it does, keeps backups of what it replaces if asked to, and remembers the relative paths
of the files that the manifest will name.
-/

namespace Bindery

/-- The books of an output. -/
structure Output where
  root : Path
  keepsBackups : Bool
  tracked : List Path
  written : Nat
  unchanged : Nat
  deriving DecidableEq

/-- What an output or a run lets others know while it works. -/
inductive Event where
  | logged (record : Record)
  /-- A file is about to be dealt with. -/
  | reached (file : String)
  deriving DecidableEq

/-- The books of an output, and what it has let others know. -/
structure Journal where
  output : Output
  events : List Event
  deriving DecidableEq

/-- Computations that write through an output. What they did before a failure stays done. -/
abbrev Session (m : Type → Type) := ExceptT Failure (StateT Journal m)

namespace Journal

/-- Adds an event. -/
def add (journal : Journal) (event : Event) : Journal :=
  { journal with events := journal.events ++ [event] }

/-- The log records among the events. -/
def records (journal : Journal) : List Record :=
  journal.events.filterMap fun
    | .logged record => some record
    | .reached _ => none

/-- The files that were reported among the events. -/
def reached (journal : Journal) : List String :=
  journal.events.filterMap fun
    | .logged _ => none
    | .reached file => some file

end Journal

namespace Session

variable {m : Type → Type} [Monad m]

/-- Writes a log record. -/
def note (level : Level) (text : String) : Session m Unit :=
  modifyThe Journal fun journal => journal.add (.logged ⟨level, text⟩)

/-- Reports that a file is about to be dealt with. -/
def reach (file : String) : Session m Unit :=
  modifyThe Journal fun journal => journal.add (.reached file)

/-- Runs an operation of a store. -/
def liftStore {α : Type} (operation : ExceptT Failure m α) : Session m α :=
  ExceptT.mk (StateT.lift operation.run)

/-- Runs a computation that only writes records. -/
def liftLogged {α : Type} (computation : Logged α) : Session m α := do
  modifyThe Journal fun journal =>
    { journal with events := journal.events ++ computation.records.map .logged }
  ExceptT.mk (pure computation.outcome)

end Session

namespace Output

/-- An output that has done nothing yet. -/
def fresh (root : Path) (keepsBackups : Bool) : Output := ⟨root, keepsBackups, [], 0, 0⟩

/-- The relative paths of the tracked files, with slashes between their components, in order and
each of them once. -/
def trackedPaths (output : Output) : List String :=
  Text.sortedOnce (output.tracked.map Path.slashed)

/-- The books in one line. -/
def summary (output : Output) : String :=
  s!"Updated: {output.written}, Up-to-date: {output.unchanged}, Tracked: {output.trackedPaths.length}"

/-- Changes the books. -/
def revise {m : Type → Type} [Monad m] (change : Output → Output) : Session m Unit :=
  modifyThe Journal fun journal => { journal with output := change journal.output }

/-- Writes a file unless it holds the same text already. Answers whether it changed. A file that is
not there counts as empty, and nothing is archived of an empty file. -/
def update {m : Type → Type} [Monad m] (store : Store m) (dir : Path) (file content : String)
    (track : Bool) : Session m Bool := do
  let relative := dir.join ⟨file⟩
  let output := (← getThe Journal).output
  let path := output.root.join relative
  if track then revise fun output => { output with tracked := output.tracked ++ [relative] }
  let existing := (← Session.liftStore (store.read path)).getD ""
  if existing = content then
    Session.note .info s!"{file}... up-to-date."
    revise fun output => { output with unchanged := output.unchanged + 1 }
    return false
  else
    if output.keepsBackups && !existing.isEmpty then
      let target ← Session.liftStore (store.backup path existing)
      Session.note .debug s!"backed up {path.text} to {target.text}"
    Session.liftLogged (Logged.write (store.writeNotes path))
    Session.liftStore (store.write path content)
    Session.note .info s!"{file}... updated."
    revise fun output => { output with written := output.written + 1 }
    return true

end Output

end Bindery
