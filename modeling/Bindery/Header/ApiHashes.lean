import Bindery.Header.Define
import Bindery.Text.Word

/-! # Interface versions and their hashes

The header of interface versions names its latest version, and for each version lists one hash per
platform, each under a condition that opens the platform's branch. A hash counts for the platform
whose condition was seen last; after that the next condition is awaited.
-/

namespace Bindery.Header

/-- The platforms that hashes are given for. -/
inductive Platform where
  | windows
  | mac
  | linux
  deriving DecidableEq, Repr

namespace Platform

/-- All platforms, in the order in which they are looked for and written. -/
def all : List Platform := [.windows, .mac, .linux]

/-- The condition that opens the branch of a platform. -/
def marker : Platform → String
  | .windows => "#if defined(OS_WIN)"
  | .mac => "#elif defined(OS_MAC)"
  | .linux => "#elif defined(OS_LINUX)"

/-- The ending of the generated constant. -/
def constantSuffix : Platform → String
  | .windows => "WIN"
  | .mac => "MACOS"
  | .linux => "LINUX"

/-- The name that conditions use. -/
def display : Platform → String
  | .windows => "OS_WIN"
  | .mac => "OS_MAC"
  | .linux => "OS_LINUX"

/-- The first platform whose condition stands in a line. -/
def inLine? (line : List Char) : Option Platform :=
  all.find? fun platform => Text.contains line platform.marker.toList

end Platform

/-- The latest version of the interface and the hashes that were found for it. -/
structure ApiHashes where
  version : String
  hashes : List (Platform × String)
  deriving DecidableEq

/-- The constant that names the latest version. -/
def lastVersionName : String := "CEF_API_VERSION_LAST"

/-- What the names of versions begin with. -/
def versionStem : String := "CEF_API_VERSION_"

/-- What the names of hashes begin with. -/
def hashStem : String := "CEF_API_HASH_"

/-- The latest version, where its definition begins right here. -/
def lastVersionAt? (s : List Char) : Option (List Char) := do
  let rest ← afterBlanks? (← Text.after? defineWord s)
  let rest ← afterBlanks? (← Text.after? lastVersionName.toList rest)
  let rest ← Text.after? versionStem.toList rest
  let digits := rest.takeWhile Text.isDigit
  if digits.isEmpty then none else some digits

/-- The latest version: the first definition of it anywhere in the text. -/
def lastVersion? : List Char → Option (List Char)
  | [] => none
  | c :: rest =>
    match lastVersionAt? (c :: rest) with
    | some version => some version
    | none => lastVersion? rest

/-- The hash of a version, where a line defines one. -/
def hashInLine? (version line : List Char) : Option (List Char) := do
  let rest ← afterBlanks? (← Text.after? defineWord line)
  let rest ← afterBlanks? (← Text.after? (hashStem.toList ++ version) rest)
  let rest ← Text.after? ['"'] rest
  let hash := rest.takeWhile Text.isWord
  match hash, rest.drop hash.length with
  | _ :: _, '"' :: _ => some hash
  | _, _ => none

/-- The hashes of a version in the lines of a header. `current` is the platform whose condition was
seen last, unless its hash has been found since. -/
def hashesInLines (version : List Char) :
    (current : Option Platform) → List (List Char) → List (Platform × String)
  | _, [] => []
  | current, line :: rest =>
    let line := Text.trim line
    let current := (Platform.inLine? line).or current
    match current, hashInLine? version line with
    | some platform, some hash =>
      (platform, String.ofList hash) :: hashesInLines version none rest
    | _, _ => hashesInLines version current rest

/-- The latest version and its hashes. -/
def apiHashes (header : String) : Except Failure ApiHashes :=
  match lastVersion? header.toList with
  | none => .error (.missingVersionMarker lastVersionName)
  | some version =>
    .ok ⟨String.ofList version, hashesInLines version none (Text.lines header.toList)⟩

namespace ApiHashes

/-- The first hash found for a platform. -/
def hash? (api : ApiHashes) (platform : Platform) : Option String :=
  (api.hashes.find? (·.1 = platform)).map (·.2)

/-- The hash of a platform, without which there are no version constants. -/
def hash (api : ApiHashes) (platform : Platform) : Except Failure String :=
  match api.hash? platform with
  | some hash => .ok hash
  | none => .error (.missingConstant s!"{hashStem}{api.version} ({platform.display})")

end ApiHashes

end Bindery.Header
