import Bindery.Store.Memory

/-! # Stores on a file system

What the generator asks of a file system is a handful of operations, which again are given in
whatever monad their effects take place. A store on a file system reads and writes there. A dry-run
store reads through to the file system and keeps every write in memory.
-/

namespace Bindery

/-- The operations of a file system. -/
structure FileSystem (m : Type → Type) where
  pathExists : Path → m Bool
  isDirectory : Path → m Bool
  readText : Path → m (Except FileFault String)
  /-- Makes the directory in which a path lies, with all directories above it. -/
  makeParents : Path → m (Except FileFault Unit)
  writeText : Path → String → m (Except FileFault Unit)
  /-- The seconds that the clock shows. -/
  seconds : m Nat
  /-- No more names than this are taken. -/
  nameBound : m Nat

namespace FileSystem

variable {m : Type → Type} [Monad m]

/-- Runs an operation on files, and fails where it does. -/
def demand {α : Type} (operation : m (Except FileFault α)) : ExceptT Failure m α :=
  ExceptT.mk do
    match ← operation with
    | .ok value => return .ok value
    | .error fault => return .error (.file fault)

/-- The text of a file. -/
def load (fs : FileSystem m) (path : Path) : ExceptT Failure m String := demand (fs.readText path)

/-- The text of a file, or `none` where there is nothing. -/
def read? (fs : FileSystem m) (path : Path) : ExceptT Failure m (Option String) := do
  if ← fs.pathExists path then return some (← fs.load path) else return none

/-- The name for a backup of a path that nothing on the file system has. -/
def backupPath (fs : FileSystem m) (path : Path) : m Path := do
  freeBackup fs.pathExists path (← fs.seconds) (← fs.nameBound) 0

/-- The store that a file system is. Directories are made as needed, except for backups. -/
def store (fs : FileSystem m) : Store m where
  read path := fs.read? path
  write path content := do
    demand (fs.makeParents path)
    demand (fs.writeText path content)
  writeNotes _ := []
  backup path content := do
    let target ← fs.backupPath path
    demand (fs.writeText target content)
    return target

/-- The store that keeps what it is given in memory and shows the file system behind it. -/
def dryRunStore (fs : FileSystem m) : Store (StateT Memory m) where
  read path := do
    match (← getThe Memory).get? path with
    | some content => return some content
    | none => ExceptT.mk (StateT.lift (fs.read? path).run)
  write path content := modifyThe Memory fun memory => memory.put path content
  writeNotes path := [⟨.debug, s!"dry run: skipping write of {path.text}"⟩]
  backup path content := do
    let target ← ExceptT.lift (StateT.lift (fs.backupPath path))
    modifyThe Memory fun memory => memory.put target content
    return target

end FileSystem

end Bindery
