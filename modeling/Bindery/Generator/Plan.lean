import Bindery.Generator
import Bindery.Source.FlatStruct
import Bindery.Source.Version
import Bindery.Source.Wrapper

/-! # Plans

The plan of a run holds every generated source in the order of writing: the flat structs by class
name, the free functions, the wrappers by class name, and the version constants where headers are
given. Whatever can be wrong with an interface or a header is found while planning, before anything
is written.
-/

namespace Bindery

/-- A generated file that is to be written. -/
structure Artifact where
  dir : Path
  file : String
  content : String
  deriving DecidableEq

/-- Where an artifact is written, below the root of the output. -/
def Artifact.path (artifact : Artifact) : Path := artifact.dir.join ⟨artifact.file⟩

namespace Generator

/-- The ending of generated sources. -/
def sourceName (stem : String) : String := s!"{stem}.g.cs"

/-- The file of a class's flat struct. -/
def structArtifact (ctx : Context) (cls : NativeClass) (layout : Layout) : Artifact :=
  ⟨ctx.settings.structDir, sourceName cls.abiName, (FlatStruct.file ctx cls layout).text⟩

/-- The file of the free functions. -/
def functionsArtifact (ctx : Context) (functions : List NativeFunction) : Artifact :=
  ⟨ctx.settings.functionsDir, ctx.settings.functionsFile, (FreeFunctions.file ctx functions).text⟩

/-- The file of a class's wrapper. -/
def wrapperArtifact (ctx : Context) (cls : NativeClass) (layout : Layout) : Artifact :=
  ⟨ctx.settings.wrapperDir, sourceName (ctx.wrapperName cls), (Wrapper.file ctx cls layout).text⟩

/-- The file of the version constants. -/
def versionArtifact (ctx : Context) (constants : Header.VersionConstants) : Artifact :=
  ⟨ctx.settings.functionsDir, ctx.settings.versionFile, (Version.file ctx constants).text⟩

/-- The artifacts of an interface with known layouts and version constants. -/
def artifacts (ctx : Context) (functions : List NativeFunction)
    (layouts : List (NativeClass × Layout)) (constants : Option Header.VersionConstants) :
    List Artifact :=
  layouts.map (fun entry => structArtifact ctx entry.1 entry.2) ++
    [functionsArtifact ctx functions] ++
    layouts.map (fun entry => wrapperArtifact ctx entry.1 entry.2) ++
    (constants.map (versionArtifact ctx)).toList

/-- The spellings that the artifacts of an interface map, in order. -/
def artifactSpellings (ctx : Context) (functions : List NativeFunction)
    (layouts : List (NativeClass × Layout)) : List String :=
  (layouts.flatMap fun entry => entry.1.staticSpellings) ++
    functions.flatMap NativeFunction.directSpellings ++
    (layouts.flatMap fun entry =>
      if (ctx.role entry.1).isProxy then entry.1.staticSpellings else [])

/-- The version constants, if headers are given. -/
def constants (g : Generator) : Except Failure (Option Header.VersionConstants) :=
  match g.headers with
  | none => .ok none
  | some headers => (Header.versionConstants headers).map some

/-- Plans a run over an interface. -/
def plan (g : Generator) (api : NativeApi) : Logged (List Artifact) := do
  let api := g.completed api
  let ctx := g.context api
  Logged.note .debug s!"registered {ctx.types.structs.size} struct types"
  g.checkRoles api
  let layouts ← g.layouts api
  let constants ← Logged.ofExcept g.constants
  Logged.write (ctx.types.warnings (artifactSpellings ctx api.functions layouts))
  return artifacts ctx api.functions layouts constants

end Generator

end Bindery
