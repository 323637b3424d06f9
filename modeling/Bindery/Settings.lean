import Bindery.Failure
import Bindery.Model
import Bindery.Path

/-! # Settings

The settings of a generator: names and places of what it writes, classes that it adds to every
interface, and files that extend the built-in tables.
-/

namespace Bindery

/-- A class that is added to every interface which lacks it. -/
structure SyntheticClass where
  name : String
  abiName : String
  parentName : String
  parentAbiName : String
  deriving DecidableEq, Inhabited

/-- A synthetic class as a class without functions. -/
def SyntheticClass.toClass (cls : SyntheticClass) : NativeClass :=
  .bare cls.name cls.abiName cls.parentName cls.parentAbiName

/-- The settings of a generator. -/
structure Settings where
  /-- Namespace of the wrapper classes. -/
  wrapperNamespace : String
  /-- Namespace of the flat structs, the free functions and the version constants. -/
  interopNamespace : String
  /-- The static class that holds the free functions, the library's name and its conventions. -/
  nativeClass : String
  /-- What the names of native functions and structs begin with. -/
  abiPrefix : String
  structDir : Path
  functionsDir : Path
  functionsFile : String
  versionFile : String
  wrapperDir : Path
  manifestFile : String
  keepsBackups : Bool
  syntheticClasses : List SyntheticClass
  classificationFile : Option Path
  dictionaryFile : Option Path
  deriving DecidableEq

namespace Settings

/-- The settings for the browser framework. -/
def default : Settings where
  wrapperNamespace := "Xilium.CefGlue"
  interopNamespace := "Xilium.CefGlue.Interop"
  nativeClass := "libcef"
  abiPrefix := "cef"
  structDir := ⟨"Interop/Classes.g"⟩
  functionsDir := ⟨"Interop"⟩
  functionsFile := "libcef.g.cs"
  versionFile := "version.g.cs"
  wrapperDir := ⟨"Classes.g"⟩
  manifestFile := "CefGlue.g.props"
  keepsBackups := false
  syntheticClasses :=
    [⟨"CefUserData", "cef_user_data_t", "CefBaseRefCounted", "cef_base_ref_counted_t"⟩]
  classificationFile := none
  dictionaryFile := none

instance : Inhabited Settings := ⟨default⟩

/-- The directories for generated sources. -/
def directories (settings : Settings) : List Path :=
  [settings.structDir, settings.functionsDir, settings.wrapperDir]

/-- The settings that must not be blank, by the names they have in documents. -/
def requiredTexts (settings : Settings) : List (String × String) := [
  ("namespace", settings.wrapperNamespace),
  ("interop_namespace", settings.interopNamespace),
  ("native_class", settings.nativeClass),
  ("static_table_filename", settings.functionsFile),
  ("version_filename", settings.versionFile),
  ("manifest_filename", settings.manifestFile)]

/-- The first fault of settings. -/
def fault? (settings : Settings) : Option SettingsFault :=
  match settings.requiredTexts.find? fun entry => (Text.trim entry.2.toList).isEmpty with
  | some (field, _) => some (.blank field)
  | none =>
    if settings.functionsFile = settings.versionFile then some .sameFileName
    else if settings.syntheticClasses.any fun cls => cls.name.isEmpty || cls.abiName.isEmpty then
      some .namelessClass
    else none

/-- Settings without faults. -/
def validated (settings : Settings) : Except Failure Settings :=
  match settings.fault? with
  | some fault => .error (.invalidSettings fault)
  | none => .ok settings

end Settings

end Bindery
