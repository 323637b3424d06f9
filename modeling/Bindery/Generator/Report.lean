import Bindery.Generator

/-! # Reports

A report on an interface counts what would be generated and lists the native spellings whose bare
names are not known. Only what planning would refuse before it reads a header is refused.
-/

namespace Bindery

/-- What a check of an interface found. -/
structure Report where
  classes : Nat
  proxies : Nat
  handlers : Nat
  slots : Nat
  functions : Nat
  /-- Spellings that no table knows, each once, in the order of their appearance. -/
  unmapped : List String
  deriving DecidableEq

/-- A report in one line. -/
def Report.display (report : Report) : String :=
  s!"Classes: {report.classes} (proxies {report.proxies}, handlers {report.handlers}), Slots: {report.slots}, Functions: {report.functions}, Unmapped types: {report.unmapped.length}"

namespace NativeApi

/-- All functions: those of the classes, the virtual ones of each first, and the free ones. -/
def allFunctions (api : NativeApi) : List NativeFunction :=
  (api.classes.flatMap fun cls => cls.virtuals ++ cls.statics) ++ api.functions

/-- The spellings of all return types and parameters. -/
def allSpellings (api : NativeApi) : List String :=
  api.allFunctions.flatMap fun f => f.returnType :: f.parameters.map (·.type)

end NativeApi

/-- The items of a list, each only where it comes first. -/
def firstOnly (items : List String) : List String :=
  (items.foldl (fun kept item => if kept.contains item then kept else item :: kept) []).reverse

namespace Generator

/-- The spellings of an interface whose bare names are not known. Plain `void` is always known. -/
def unmappedSpellings (types : TypeMap) (api : NativeApi) : List String :=
  firstOnly (api.allSpellings.filter fun native => native != "void" && !types.isMapped native)

/-- Checks an interface. -/
def check (g : Generator) (api : NativeApi) : Logged Report := do
  let api := g.completed api
  g.checkRoles api
  let layouts ← g.layouts api
  return {
    classes := layouts.length
    proxies := (layouts.filter fun entry => g.classification.isProxy entry.1.name).length
    handlers := (layouts.filter fun entry => g.classification.isHandler entry.1.name).length
    slots := layouts.foldr (fun entry total => entry.2.size + total) 0
    functions := api.functions.length
    unmapped := unmappedSpellings (g.typeMap api) api }

end Generator

end Bindery
