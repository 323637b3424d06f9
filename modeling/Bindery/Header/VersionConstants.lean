import Bindery.Header.ApiHashes

/-! # Version constants

The version constants of a native library come from two headers: the one of its version, and the one
of the versions of its interface. All of them have to be there.
-/

namespace Bindery.Header

/-- The text of the two headers. -/
structure VersionHeaders where
  version : String
  apiVersions : String
  deriving DecidableEq, Inhabited

/-- The file of the version header. -/
def versionHeaderFile : String := "cef_version.h"

/-- The file of the header of interface versions. -/
def apiVersionsHeaderFile : String := "cef_api_versions.h"

/-- The version constants, each as written in its header. -/
structure VersionConstants where
  libraryVersion : String
  libraryMajor : String
  commitNumber : String
  commitHash : String
  browserMajor : String
  browserMinor : String
  browserBuild : String
  browserPatch : String
  api : ApiHashes
  /-- The hash of every platform, in the order of the platforms. -/
  platformHashes : List (Platform × String)
  deriving DecidableEq

/-- Reads the version constants. The hashes are asked for first, then the constants in the order of
their fields. -/
def versionConstants (headers : VersionHeaders) : Except Failure VersionConstants := do
  let api ← apiHashes headers.apiVersions
  let platformHashes ← Platform.all.mapM fun platform => return (platform, ← api.hash platform)
  let libraryVersion ← constant headers.version "CEF_VERSION"
  let libraryMajor ← constant headers.version "CEF_VERSION_MAJOR"
  let commitNumber ← constant headers.version "CEF_COMMIT_NUMBER"
  let commitHash ← constant headers.version "CEF_COMMIT_HASH"
  let browserMajor ← constant headers.version "CHROME_VERSION_MAJOR"
  let browserMinor ← constant headers.version "CHROME_VERSION_MINOR"
  let browserBuild ← constant headers.version "CHROME_VERSION_BUILD"
  let browserPatch ← constant headers.version "CHROME_VERSION_PATCH"
  return ⟨libraryVersion, libraryMajor, commitNumber, commitHash, browserMajor, browserMinor,
    browserBuild, browserPatch, api, platformHashes⟩

end Bindery.Header
