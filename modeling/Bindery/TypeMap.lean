import Bindery.Dictionary
import Bindery.Model
import Bindery.Spelling

/-! # Target types

A native type is mapped by its bare name, looked up among the plain types, the enumerations and the
native structs, in this order. A name that none of them has stands for itself. Indirections are
kept.
-/

namespace Bindery

/-- What is known about types in one run: a dictionary and the structs of the native classes. -/
structure TypeMap where
  dictionary : Dictionary
  structs : Table String
  deriving Inhabited

namespace TypeMap

/-- The type map of a dictionary, with one struct for each class. -/
def ofClasses (dictionary : Dictionary) (classes : List NativeClass) : TypeMap :=
  ⟨dictionary, Table.ofList (classes.map fun cls => (cls.abiName, cls.abiName))⟩

/-- Adds the target name of a struct. -/
def addStruct (types : TypeMap) (abiName target : String) : TypeMap :=
  { types with structs := types.structs.insert abiName target }

/-- The target name of a bare native name. -/
def lookup? (types : TypeMap) (bare : String) : Option String :=
  (types.dictionary.concrete.get? bare).or
    ((types.dictionary.enums.get? bare).or (types.structs.get? bare))

/-- The target type of a native spelling. -/
def map (types : TypeMap) (native : String) : String :=
  let spelling := Spelling.ofText native
  (types.lookup? spelling.name).getD spelling.name ++
    String.ofList (List.replicate spelling.depth Spelling.mark)

/-- Whether the bare name of a native spelling is known. -/
def isMapped (types : TypeMap) (native : String) : Bool :=
  (types.lookup? (Spelling.ofText native).name).isSome

/-- What is said about a spelling whose bare name is not known. -/
def unmappedNotice (native : String) : String :=
  s!"C type \"{native}\" is not mapped to a target type (processed to \"{(Spelling.ofText native).name}\")"

/-- The name endings of the per-platform variants of a target return type: one empty ending unless
the dictionary has others. -/
def variants (types : TypeMap) (targetReturn : String) : List String :=
  match types.dictionary.platformReturns.get? targetReturn with
  | some (ending :: rest) => ending :: rest
  | _ => [""]

end TypeMap

/-- Words of the target language that a parameter may be called by in a native header. -/
def targetKeywords : List String := ["object", "string", "checked", "event", "params", "delegate"]

/-- A name that can be used for a parameter in the target language. -/
def quoteName (name : String) : String := if targetKeywords.contains name then "@" ++ name else name

end Bindery
