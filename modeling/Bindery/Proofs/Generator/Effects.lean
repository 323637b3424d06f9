import Bindery.Generator.Run
import Bindery.Proofs.Submonads

/-! # What runs do with a file system

A run does nothing with a store but read, write and archive, and a store in front of a file system
does nothing with it but ask. Main statements: where the operations of a store are of a kind, so is
every run over it (`Generator.holds_run`); and a dry-run store is of every kind of which the queries
of the file system behind it are (`FileSystem.Queries.dryRunStore`).
-/

namespace Bindery

variable {m : Type → Type} [Monad m] {S : Submonad m}

/-- The queries of a file system, which leave out all that makes or writes files, are of a kind. -/
structure FileSystem.Queries (S : Submonad m) (fs : FileSystem m) : Prop where
  pathExists : ∀ path, S.holds (fs.pathExists path)
  isDirectory : ∀ path, S.holds (fs.isDirectory path)
  readText : ∀ path, S.holds (fs.readText path)
  seconds : S.holds fs.seconds
  nameBound : S.holds fs.nameBound

/-- The operations of a store are of a kind. -/
structure Store.Within (S : Submonad m) (store : Store m) : Prop where
  read : ∀ path, (S.withFailures Failure).holds (store.read path)
  write : ∀ path content, (S.withFailures Failure).holds (store.write path content)
  backup : ∀ path content, (S.withFailures Failure).holds (store.backup path content)

namespace FileSystem

theorem holds_freeBackup {taken : Path → m Bool} (holds : ∀ path, S.holds (taken path))
    (path : Path) (seconds tries attempt : Nat) :
    S.holds (freeBackup taken path seconds tries attempt) := by
  induction tries generalizing attempt with
  | zero => exact S.pure _
  | succ tries ih =>
    refine S.bind (holds _) fun found => ?_
    split
    · exact ih _
    · exact S.pure _

namespace Queries

variable {fs : FileSystem m} (queries : fs.Queries S)
include queries

theorem backupPath (path : Path) : S.holds (fs.backupPath path) :=
  S.bind queries.seconds fun _ => S.bind queries.nameBound fun _ =>
    holds_freeBackup queries.pathExists _ _ _ _

theorem load (path : Path) : (S.withFailures Failure).holds (fs.load path) := by
  refine S.bind (queries.readText path) fun outcome => ?_
  cases outcome with
  | error fault => exact S.pure _
  | ok text => exact S.pure _

variable [LawfulMonad m]

theorem read? (path : Path) : (S.withFailures Failure).holds (fs.read? path) := by
  refine (S.withFailures _).bind (S.holds_liftExcept (queries.pathExists path)) fun found => ?_
  split
  · exact (S.withFailures _).bind (queries.load path) fun _ => (S.withFailures _).pure _
  · exact (S.withFailures _).pure _

/-- In front of a file system, a dry-run store does nothing with it but ask. -/
theorem dryRunStore : fs.dryRunStore.Within (S.withState Memory) where
  read path := by
    refine (S.withBooks _ _).bind S.holds_look fun memory => ?_
    split
    · exact (S.withBooks _ _).pure _
    · exact S.holds_lift (queries.read? path)
  write path content := S.holds_book _
  backup path content := by
    have named : (S.withBooks Memory Failure).holds
        (ExceptT.lift (StateT.lift (fs.backupPath path))) :=
      (S.withState Memory).holds_liftExcept (S.holds_lift (queries.backupPath path))
    refine (S.withBooks _ _).bind named fun target => ?_
    exact (S.withBooks _ _).bind (S.holds_book _) fun _ => (S.withBooks _ _).pure _

end Queries

end FileSystem

/-! ## Sessions -/

namespace Session

theorem holds_liftStore {α : Type} {operation : ExceptT Failure m α}
    (holds : (S.withFailures Failure).holds operation) :
    (S.withBooks Journal Failure).holds (liftStore operation) := S.holds_lift holds

variable [LawfulMonad m]

theorem holds_note (level : Level) (text : String) :
    (S.withBooks Journal Failure).holds (note level text) := S.holds_book _

theorem holds_reach (file : String) : (S.withBooks Journal Failure).holds (reach file) :=
  S.holds_book _

theorem holds_liftLogged {α : Type} (computation : Logged α) :
    (S.withBooks Journal Failure).holds (liftLogged computation) :=
  (S.withBooks _ _).bind (S.holds_book _) fun _ _ => S.pure _

end Session

/-- Updating a file does nothing but what the store does. -/
theorem Output.holds_update [LawfulMonad m] {store : Store m} (within : store.Within S) (dir : Path)
    (file content : String) (track : Bool) :
    (S.withBooks Journal Failure).holds (update store dir file content track) := by
  have revises (change : Output → Output) :
      (S.withBooks Journal Failure).holds (revise change) := S.holds_book _
  let T := S.withBooks Journal Failure
  unfold update
  refine T.bind S.holds_look fun journal => ?_
  refine T.holds_when (revises _) fun _ => ?_
  refine T.bind (Session.holds_liftStore (within.read _)) fun existing => ?_
  dsimp only
  split
  · refine T.bind (Session.holds_note _ _) fun _ => T.bind (revises _) fun _ => T.pure _
  · have replaces (path : Path) : T.holds (do
        Session.liftLogged (Logged.write (store.writeNotes path))
        Session.liftStore (store.write path content)
        Session.note .info s!"{file}... updated."
        revise fun output => { output with written := output.written + 1 }
        return true) :=
      T.bind (Session.holds_liftLogged _) fun _ =>
        T.bind (Session.holds_liftStore (within.write _ _)) fun _ =>
          T.bind (Session.holds_note _ _) fun _ => T.bind (revises _) fun _ => T.pure _
    split
    · refine T.bind (Session.holds_liftStore (within.backup _ _)) fun target => ?_
      exact T.bind (Session.holds_note _ _) fun _ => replaces _
    · exact replaces _

namespace Generator

section Runs

variable [LawfulMonad m] {store : Store m} (within : store.Within S)
include within

theorem holds_writeAll (artifacts : List Artifact) :
    (S.withBooks Journal Failure).holds (writeAll store artifacts) := by
  let T := S.withBooks Journal Failure
  induction artifacts with
  | nil => exact T.pure _
  | cons artifact rest ih =>
    refine T.bind (Session.holds_reach _) fun _ => ?_
    refine T.bind (Output.holds_update within _ _ _ _) fun changed => ?_
    exact T.bind ih fun _ => T.pure _

/-- A run does nothing but what the store does. -/
theorem holds_run (g : Generator) (api : NativeApi) :
    (S.withBooks Journal Failure).holds (g.run api store) := by
  let T := S.withBooks Journal Failure
  have manifest : T.holds (g.writeManifest store) := by
    refine T.bind (Session.holds_reach _) fun _ => ?_
    exact T.bind S.holds_look fun _ => Output.holds_update within _ _ _ _
  refine T.bind (Session.holds_liftLogged _) fun artifacts => ?_
  refine T.bind (holds_writeAll within _) fun changed => ?_
  refine T.bind manifest fun manifestChanged => ?_
  exact T.bind (Session.holds_note _ _) fun _ => T.pure _

end Runs

section Documents

variable {fs : FileSystem m} (queries : fs.Queries S)
include queries

theorem holds_loadDocument {α : Type} (ofText : String → Except Json.Fault α) (path : Path) :
    (S.withFailures Failure).holds (loadDocument fs ofText path) := by
  refine (S.withFailures _).bind (queries.load path) fun content => ?_
  split
  · exact (S.withFailures _).pure _
  · exact S.holds_throw _

theorem holds_loadSettings (path : Path) :
    (S.withFailures Failure).holds (loadSettings fs path) :=
  (S.withFailures _).bind (holds_loadDocument queries _ _) fun _ => S.pure _

theorem holds_loadHeaders (dir : Path) :
    (S.withFailures Failure).holds (loadHeaders fs dir) := by
  refine (S.withFailures _).bind (queries.load _) fun version => ?_
  exact (S.withFailures _).bind (queries.load _) fun apiVersions => (S.withFailures _).pure _

variable [LawfulMonad m]

theorem holds_loadClassification (path : Option Path) :
    (S.withFailures Failure).holds (loadClassification fs path) := by
  cases path with
  | none => exact (S.withFailures _).pure _
  | some path => exact (S.withFailures _).holds_map (holds_loadDocument queries _ _) _

theorem holds_loadDictionary (path : Option Path) :
    (S.withFailures Failure).holds (loadDictionary fs path) := by
  cases path with
  | none => exact (S.withFailures _).pure _
  | some path => exact (S.withFailures _).holds_map (holds_loadDocument queries _ _) _

end Documents

end Generator

end Bindery
