import Bindery.Header.VersionConstants
import Bindery.Source.FreeFunctions

/-! # The file of version constants

The version constants become constants of the static class of free functions.
-/

namespace Bindery.Version

/-- The file that declares the version constants. -/
def file (ctx : Context) (constants : Header.VersionConstants) : Code :=
  FreeFunctions.nativeClassFile ctx <|
    [ .line s!"public const string CEF_VERSION = {constants.libraryVersion};",
      .line s!"public const int CEF_VERSION_MAJOR = {constants.libraryMajor};",
      .line s!"public const int CEF_COMMIT_NUMBER = {constants.commitNumber};",
      .line s!"public const string CEF_COMMIT_HASH = {constants.commitHash};",
      .blank,
      .line s!"public const int CHROME_VERSION_MAJOR = {constants.browserMajor};",
      .line s!"public const int CHROME_VERSION_MINOR = {constants.browserMinor};",
      .line s!"public const int CHROME_VERSION_BUILD = {constants.browserBuild};",
      .line s!"public const int CHROME_VERSION_PATCH = {constants.browserPatch};",
      .blank,
      .line s!"public const int CEF_API_VERSION = {constants.api.version};" ] ++
    constants.platformHashes.map fun entry =>
      .line s!"public const string CEF_API_HASH_PLATFORM_{entry.1.constantSuffix} = \"{entry.2}\";"

end Bindery.Version
