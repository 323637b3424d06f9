import Bindery.Store

/-! # Stores in memory

A memory holds texts by path. Paths are compared by their components; the spelling by which a path
came in first is kept.
-/

namespace Bindery

/-- Texts by path. -/
structure Memory where
  files : List (Path × String)
  deriving DecidableEq, Inhabited

namespace Memory

/-- The memory without files. -/
def empty : Memory := ⟨[]⟩

/-- The text at a path. -/
def get? (memory : Memory) (path : Path) : Option String :=
  (memory.files.find? fun file => file.1.same path).map (·.2)

/-- Whether there is a text at a path. -/
def contains (memory : Memory) (path : Path) : Bool := (memory.get? path).isSome

/-- Replaces the text at a path in place, or adds it at the end. -/
def putFile (path : Path) (content : String) : List (Path × String) → List (Path × String)
  | [] => [(path, content)]
  | (known, old) :: rest =>
    if known.same path then (known, content) :: rest
    else (known, old) :: putFile path content rest

/-- Sets the text at a path. -/
def put (memory : Memory) (path : Path) (content : String) : Memory :=
  ⟨putFile path content memory.files⟩

/-- The paths in their order. -/
def paths (memory : Memory) : List Path :=
  (memory.files.map (·.1)).mergeSort fun a b => a.order b != .gt

/-- The path that a backup of a path gets. One more name is tried than there are files. -/
def backupPath (memory : Memory) (path : Path) (seconds : Nat) : Path :=
  Id.run (freeBackup (fun candidate => pure (memory.contains candidate)) path seconds
    memory.files.length 0)

end Memory

/-- A memory with a clock. -/
structure ClockedMemory where
  memory : Memory
  clock : Clock

/-- The store that a memory is. -/
def memoryStore : Store (StateM ClockedMemory) where
  read path := do return (← get).memory.get? path
  write path content := modify fun world => { world with memory := world.memory.put path content }
  writeNotes _ := []
  backup path content := do
    let world ← get
    let (seconds, clock) := world.clock.look
    let target := world.memory.backupPath path seconds
    set (ClockedMemory.mk (world.memory.put target content) clock)
    return target

end Bindery
