import Bindery.Header.VersionConstants
import Bindery.Log
import Bindery.Source.Context

/-! # Generators

A generator is made of settings, a classification, a dictionary and, if version constants are
wanted, the native version headers. It adds the synthetic classes to an interface, and accepts the
interface only when every class has exactly one role and a layout.
-/

namespace Bindery

/-- What a run needs beside the interface. -/
structure Generator where
  settings : Settings
  classification : Classification
  dictionary : Dictionary
  headers : Option Header.VersionHeaders

/-- The spellings of the parameters that a signature maps, in order. -/
def NativeFunction.parameterSpellings (f : NativeFunction) : List String :=
  if f.takesNothing then [] else f.parameters.map (·.type)

/-- The spellings that the signature of a method maps, in order. -/
def NativeFunction.methodSpellings (f : NativeFunction) : List String :=
  f.parameterSpellings ++ [f.returnType]

/-- The spellings that the signature of a directly called function maps, in order. -/
def NativeFunction.directSpellings (f : NativeFunction) : List String :=
  f.returnType :: f.parameterSpellings

/-- The spellings that the signatures of a class's statics map, in order. -/
def NativeClass.staticSpellings (cls : NativeClass) : List String :=
  cls.statics.flatMap NativeFunction.directSpellings

/-- The spellings that the signatures of a layout map, in order. -/
def Ancestry.spellings (ancestry : Ancestry) (cls : NativeClass) : List String :=
  (ancestry.chain.flatMap fun ancestor =>
    ancestor.virtuals.flatMap NativeFunction.methodSpellings) ++ cls.staticSpellings

/-- The warnings about the spellings of a list whose bare names are not known. -/
def TypeMap.warnings (types : TypeMap) (spellings : List String) : List Record :=
  (spellings.filter fun native => !types.isMapped native).map fun native =>
    ⟨.warn, unmappedNotice native⟩

namespace Generator

/-- A generator without version headers. -/
def plain (settings : Settings) (classification : Classification) (dictionary : Dictionary) :
    Generator :=
  ⟨settings, classification, dictionary, none⟩

/-- An interface with the synthetic classes whose names it lacks, at the end. -/
def completed (g : Generator) (api : NativeApi) : NativeApi :=
  g.settings.syntheticClasses.foldl
    (fun api cls =>
      if (api.classNamed? cls.name).isSome then api
      else { api with classes := api.classes ++ [cls.toClass] })
    api

/-- The types of a run over an interface. -/
def typeMap (g : Generator) (api : NativeApi) : TypeMap := .ofClasses g.dictionary api.classes

/-- What the files of a run over an interface are generated from. -/
def context (g : Generator) (api : NativeApi) : Context :=
  ⟨g.settings, g.classification, g.typeMap api⟩

/-- What is wrong with the role of a class: it has none, or both. -/
def roleFault? (g : Generator) (cls : NativeClass) : Option Failure :=
  let role := g.classification.role cls.name
  if role.isEmpty then some (.missingRole cls.name)
  else if role.isProxy && role.isHandler then some (.conflictingRoles cls.name)
  else none

/-- Refuses an interface at the first class, by name, with a wrong role. -/
def checkRoles (g : Generator) (api : NativeApi) : Logged Unit :=
  match api.sortedClasses.findSome? g.roleFault? with
  | none => pure ()
  | some failure => do
    Logged.note .error failure.message
    Logged.fail failure

/-- The layout of a class, with warnings about the types that are not known. -/
def layout (g : Generator) (api : NativeApi) (cls : NativeClass) : Logged Layout := do
  let ctx := g.context api
  let ancestry ← Logged.ofExcept (api.ancestry cls)
  Logged.write (ctx.types.warnings (ancestry.spellings cls))
  let layout := Layout.ofAncestry ctx.naming cls ancestry
  Logged.note .debug
    s!"{cls.name}: {layout.size} slots over {ancestry.chain.length} class(es), root {ancestry.root.abiName}"
  return layout

/-- The layouts of all classes, by class name. -/
def layouts (g : Generator) (api : NativeApi) : Logged (List (NativeClass × Layout)) :=
  api.sortedClasses.mapM fun cls => do return (cls, ← g.layout api cls)

end Generator

end Bindery
