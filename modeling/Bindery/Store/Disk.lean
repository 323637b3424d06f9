import Bindery.Store.FileSystem
import Bindery.Store.Tree

/-! # Disks

A disk is a tree of files with a working directory. A path is followed from the working directory
name by name; every name but the last has to be that of a directory, and neither a name nor a path
may be longer than the system takes.
-/

namespace Bindery

/-- A tree of files with a working directory. -/
structure Disk where
  top : List (RawText × Entry)
  workingDirectory : List RawText

/-- Where a path leads. -/
inductive Destination where
  | found (place : List RawText) (entry : Entry)
  /-- Nothing has the last name of the path. -/
  | vacant (directory : List RawText) (name : RawText)
  | blocked (fault : FileFault)

namespace Disk

/-- What stands at a place. -/
def entry? (disk : Disk) (place : List RawText) : Option Entry := Entry.entryAt? disk.top place

/-- Puts an entry at a place. -/
def put (disk : Disk) (place : List RawText) (entry : Entry) : Disk :=
  { disk with top := Entry.putAt disk.top entry place }

/-- The files with their places, as these are shown. -/
def files (disk : Disk) : List (List String × ByteArray) :=
  (Entry.filesBelow disk.top).map fun file => (file.1.map RawText.text, file.2)

/-- Whether a name has more bytes than names may have. -/
def isTooLong (name : RawText) : Bool := 255 < name.size

/-- Why the system does not even look at a path. -/
def refusal? (path : Path) : Option FileFault :=
  if path.spelling.contains (.char '\x00') then some .nulInName
  else if path.spelling.isEmpty then some .notFound
  else if 4095 < path.spelling.size then some .nameTooLong
  else none

/-- Follows components from a directory. -/
def follow (disk : Disk) : (directory : List RawText) → List Component → Destination
  | directory, [] =>
    match disk.entry? directory with
    | some entry => .found directory entry
    | none => .blocked .notFound
  | _, .root :: rest => disk.follow [] rest
  | directory, .current :: rest => disk.follow directory rest
  | directory, .parent :: rest => disk.follow directory.dropLast rest
  | directory, .normal name :: rest =>
    if isTooLong name then .blocked .nameTooLong
    else
      match disk.entry? (directory ++ [name]), rest with
      | some (.directory _), rest => disk.follow (directory ++ [name]) rest
      | some (.file bytes), [] => .found (directory ++ [name]) (.file bytes)
      | some (.file _), _ :: _ => .blocked .notDirectory
      | none, [] => .vacant directory name
      | none, _ :: _ => .blocked .notFound

/-- Whether a path ends in a slash, so that it can only name a directory. -/
def endsInSlash (path : Path) : Bool := path.spelling.getLast? == some (.char '/')

/-- Whether the last name in a path is `.`, whatever slashes follow it. The name before it has to be
that of a directory. -/
def endsInDot (path : Path) : Bool :=
  ((Text.splitOn (.char '/') path.spelling).filter (!·.isEmpty)).getLast? == some [.char '.']

/-- Where a path leads. -/
def destination (disk : Disk) (path : Path) : Destination :=
  match refusal? path with
  | some fault => .blocked fault
  | none =>
    match disk.follow disk.workingDirectory path.components with
    | .found place (.file bytes) =>
      if endsInSlash path || endsInDot path then .blocked .notDirectory
      else .found place (.file bytes)
    | .vacant directory name =>
      if endsInDot path then .blocked .notFound else .vacant directory name
    | other => other

/-- Whether a path leads to something. -/
def pathExists (disk : Disk) (path : Path) : Bool :=
  match disk.destination path with
  | .found _ _ => true
  | _ => false

/-- Whether a path leads to a directory. -/
def isDirectory (disk : Disk) (path : Path) : Bool :=
  match disk.destination path with
  | .found _ (.directory _) => true
  | _ => false

/-- The text of the file that a path leads to. -/
def readText (disk : Disk) (path : Path) : Except FileFault String :=
  match disk.destination path with
  | .found _ (.file bytes) =>
    match String.fromUTF8? bytes with
    | some content => .ok content
    | none => .error .notText
  | .found _ (.directory _) => .error .isDirectory
  | .vacant _ _ => .error .notFound
  | .blocked fault => .error fault

/-- Components with a name at their end replaced by the directory that it stands in. -/
def withoutName (components : List Component) : List Component :=
  match components.getLast? with
  | some (.normal _) => components.dropLast ++ [.current]
  | _ => components

/-- Writes the file that a path leads to. A path that ends in a name and a slash cannot name a file,
whatever has that name. -/
def writeText (disk : Disk) (path : Path) (content : String) : Except FileFault Disk :=
  if endsInSlash path && !endsInDot path && (refusal? path).isNone then
    match disk.follow disk.workingDirectory (withoutName path.components) with
    | .blocked fault => .error fault
    | _ => .error .isDirectory
  else
    match disk.destination path with
    | .found _ (.directory _) => .error .isDirectory
    | .found place (.file _) => .ok (disk.put place (.file content.toUTF8))
    | .vacant directory name => .ok (disk.put (directory ++ [name]) (.file content.toUTF8))
    | .blocked fault => .error fault

/-- Makes the directories along components that are not there. What has been made stays when a later
one cannot be made. A file on the way is in the way of the directory of its name; only where nothing
was missing before it, and more names follow, is it what a name is looked for in. -/
def makeFrom (disk : Disk) (madeOne : Bool) :
    (directory : List RawText) → List Component → Disk × Except FileFault Unit
  | _, [] => (disk, .ok ())
  | _, .root :: rest => disk.makeFrom madeOne [] rest
  | directory, .current :: rest => disk.makeFrom madeOne directory rest
  | directory, .parent :: rest => disk.makeFrom madeOne directory.dropLast rest
  | directory, .normal name :: rest =>
    let place := directory ++ [name]
    if isTooLong name then (disk, .error .nameTooLong)
    else
      match disk.entry? place with
      | some (.directory _) => disk.makeFrom madeOne place rest
      | some (.file _) =>
        (disk, .error (if madeOne || rest.isEmpty then .alreadyExists else .notDirectory))
      | none => (disk.put place (.directory [])).makeFrom true place rest

/-- Makes a directory and all directories above it. -/
def makeDirectories (disk : Disk) (path : List Component) : Disk × Except FileFault Unit :=
  disk.makeFrom false disk.workingDirectory path

/-- Makes the directory in which a path lies, where it lies in one. -/
def makeParents (disk : Disk) (path : Path) : Disk × Except FileFault Unit :=
  if path.parent.spelling.isEmpty then (disk, .ok ())
  else
    match refusal? path.parent with
    | some fault => (disk, .error fault)
    | none => disk.makeDirectories path.parent.components

/-- The disk with nothing but a working directory. -/
def bare (workingDirectory : List RawText) : Disk :=
  ⟨Entry.nested workingDirectory, workingDirectory⟩

/-- The disk with a directory that is made with all directories above it, as far as that goes. -/
def withDirectory (disk : Disk) (path : Path) : Disk := (disk.makeDirectories path.components).1

/-- The disk with a file of given bytes and all directories above it, where it can be written. -/
def withFile (disk : Disk) (path : Path) (bytes : ByteArray) : Disk :=
  let disk := (disk.makeParents path).1
  match disk.destination path with
  | .vacant directory name => disk.put (directory ++ [name]) (.file bytes)
  | .found place (.file _) => disk.put place (.file bytes)
  | _ => disk

end Disk

/-- A disk with a clock. -/
structure Machine where
  disk : Disk
  clock : Clock

/-- The file system of a machine. -/
def Machine.fileSystem : FileSystem (StateM Machine) where
  pathExists path := do return (← get).disk.pathExists path
  isDirectory path := do return (← get).disk.isDirectory path
  readText path := do return (← get).disk.readText path
  makeParents path := do
    let machine ← get
    let (disk, outcome) := machine.disk.makeParents path
    set { machine with disk }
    return outcome
  writeText path content := do
    let machine ← get
    match machine.disk.writeText path content with
    | .ok disk => set { machine with disk }; return .ok ()
    | .error fault => return .error fault
  seconds := do
    let machine ← get
    let (seconds, clock) := machine.clock.look
    set { machine with clock }
    return seconds
  nameBound := do return Entry.sizeBelow (← get).disk.top

end Bindery
