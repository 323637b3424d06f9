import Bindery.Json.Literal

/-! # Why generation fails

Each cause has one message. Causes that lie in the file system or in a document carry what went
wrong there.
-/

namespace Bindery

/-- What can go wrong with a file. -/
inductive FileFault where
  | notFound
  | isDirectory
  | notDirectory
  | alreadyExists
  | notText
  | nameTooLong
  /-- A path holds the character that ends names for the system. -/
  | nulInName
  /-- Anything else that the operating system reports. -/
  | other (text : String)
  deriving DecidableEq

/-- The text of a fault as the operating system words it. -/
def FileFault.message : FileFault → String
  | .notFound => "No such file or directory (os error 2)"
  | .isDirectory => "Is a directory (os error 21)"
  | .notDirectory => "Not a directory (os error 20)"
  | .alreadyExists => "File exists (os error 17)"
  | .notText => "stream did not contain valid UTF-8"
  | .nameTooLong => "File name too long (os error 36)"
  | .nulInName => "file name contained an unexpected NUL byte"
  | .other text => text

/-- What can be wrong with settings. -/
inductive SettingsFault where
  | blank (field : String)
  | sameFileName
  | namelessClass
  deriving DecidableEq

/-- The text of a fault in settings. -/
def SettingsFault.message : SettingsFault → String
  | .blank field => s!"{field} must not be empty"
  | .sameFileName => "static_table_filename and version_filename must differ"
  | .namelessClass => "synthetic class needs a name and an ABI name"

/-- The kind of fault that a document was refused for. -/
def Json.Fault.category : Json.Fault → String
  | .malformed => "Syntax"
  | .unfinished => "Eof"
  | .mismatched => "Data"

/-- Why a document was refused, in words. -/
def Json.Fault.message : Json.Fault → String
  | .malformed => "the text is not well formed"
  | .unfinished => "the text ends too early"
  | .mismatched => "the document has not the expected shape"

/-- Why generation fails. -/
inductive Failure where
  | missingRole (cls : String)
  | conflictingRoles (cls : String)
  | unsupportedBase (cls base : String)
  | inheritanceCycle (cls : String)
  | missingConstant (constant : String)
  | missingVersionMarker (marker : String)
  | invalidSettings (fault : SettingsFault)
  | file (fault : FileFault)
  | document (fault : Json.Fault)
  deriving DecidableEq

/-- The message of a failure. -/
def Failure.message : Failure → String
  | .missingRole cls => s!"Class role must be defined. Class name {cls}."
  | .conflictingRoles cls => s!"Class {cls} cannot be both PROXY and HANDLER."
  | .unsupportedBase cls base =>
    s!"Generation for base class \"{base}\" is not supported (class {cls})"
  | .inheritanceCycle cls => s!"Inheritance cycle detected at class {cls}"
  | .missingConstant constant => s!"Could not find {constant} constant"
  | .missingVersionMarker marker => s!"{marker} not found in the version header"
  | .invalidSettings fault => s!"Invalid configuration: {fault.message}"
  | .file fault => s!"IO error: {fault.message}"
  | .document fault => s!"JSON error: {fault.message}"

end Bindery
