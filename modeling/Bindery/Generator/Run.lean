import Bindery.Classification.Builtin
import Bindery.Dictionary.Builtin
import Bindery.Documents
import Bindery.Generator.Plan
import Bindery.Output
import Bindery.Source.Manifest
import Bindery.Store.FileSystem

/-! # Runs

A run plans an interface, then takes the artifacts in order through an output, and at last the
manifest of all files that the output tracks. It stops at the first file that fails.
-/

namespace Bindery.Generator

variable {m : Type → Type} [Monad m]

/-- Takes artifacts through an output in order. Answers how many files changed. -/
def writeAll (store : Store m) : List Artifact → Session m Nat
  | [] => return 0
  | artifact :: rest => do
    Session.reach artifact.file
    let changed ← Output.update store artifact.dir artifact.file artifact.content true
    let others ← writeAll store rest
    return others + if changed then 1 else 0

/-- Takes the manifest of the tracked files through an output. -/
def writeManifest (g : Generator) (store : Store m) : Session m Bool := do
  Session.reach g.settings.manifestFile
  let paths := (← getThe Journal).output.trackedPaths
  Output.update store ⟨""⟩ g.settings.manifestFile (Manifest.text paths) false

/-- Generates an interface through an output. Answers how many files changed. -/
def run (g : Generator) (api : NativeApi) (store : Store m) : Session m Nat := do
  let artifacts ← Session.liftLogged (g.plan api)
  let changed ← writeAll store artifacts
  let manifestChanged ← g.writeManifest store
  let total := changed + if manifestChanged then 1 else 0
  Session.note .info s!"{total} of {artifacts.length + 1} file(s) updated"
  return total

/-- The generator of settings with the built-in tables. -/
def builtin (settings : Settings) : Generator :=
  plain settings Classification.builtin Dictionary.builtin

/-- A document on a file system. -/
def loadDocument {α : Type} (fs : FileSystem m) (ofText : String → Except Json.Fault α)
    (path : Path) : ExceptT Failure m α := do
  match ofText (← fs.load path) with
  | .ok value => return value
  | .error fault => throw (.document fault)

/-- The built-in classification, under that of a file if one is named. -/
def loadClassification (fs : FileSystem m) : Option Path → ExceptT Failure m Classification
  | none => pure Classification.builtin
  | some path => Classification.builtin.merge <$> loadDocument fs Classification.ofText path

/-- The built-in dictionary, under that of a file if one is named. -/
def loadDictionary (fs : FileSystem m) : Option Path → ExceptT Failure m Dictionary
  | none => pure Dictionary.builtin
  | some path => Dictionary.builtin.merge <$> loadDocument fs Dictionary.ofText path

/-- The generator of settings: the built-in tables, under those of the files that the settings
name. -/
def ofSettings (fs : FileSystem m) (settings : Settings) : ExceptT Failure m Generator := do
  let classification ← loadClassification fs settings.classificationFile
  let dictionary ← loadDictionary fs settings.dictionaryFile
  return plain settings classification dictionary

/-- Settings on a file system, which must be without faults. -/
def loadSettings (fs : FileSystem m) (path : Path) : ExceptT Failure m Settings := do
  let settings ← loadDocument fs Settings.ofText path
  ExceptT.mk (pure settings.validated)

/-- The version headers in a directory. -/
def loadHeaders (fs : FileSystem m) (dir : Path) : ExceptT Failure m Header.VersionHeaders := do
  let version ← fs.load (dir.join ⟨Header.versionHeaderFile⟩)
  let apiVersions ← fs.load (dir.join ⟨Header.apiVersionsHeaderFile⟩)
  return ⟨version, apiVersions⟩

/-- Generates an interface on a file system with the default settings. -/
def regenerate (fs : FileSystem m) (api : NativeApi) : Session m Nat := do
  let output := (← getThe Journal).output
  (builtin { Settings.default with keepsBackups := output.keepsBackups }).run api fs.store

end Bindery.Generator
