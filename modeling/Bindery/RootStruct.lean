/-! # Roots of class hierarchies

Every class hierarchy hangs off one of two root structs, and every function table begins with the
functions of its root, in a fixed order.
-/

namespace Bindery

/-- A function that a root struct provides. -/
inductive Capability where
  | addRef
  | release
  | hasOneRef
  | hasAtLeastOneRef
  | del
  deriving DecidableEq, Repr

namespace Capability

/-- The logical name. -/
def name : Capability → String
  | .addRef => "AddRef"
  | .release => "Release"
  | .hasOneRef => "HasOneRef"
  | .hasAtLeastOneRef => "HasAtLeastOneRef"
  | .del => "Del"

/-- The name at the binary interface. -/
def abiName : Capability → String
  | .addRef => "add_ref"
  | .release => "release"
  | .hasOneRef => "has_one_ref"
  | .hasAtLeastOneRef => "has_at_least_one_ref"
  | .del => "del"

/-- The target type that a capability returns. -/
def returnType : Capability → String
  | .addRef => "void"
  | .del => "void"
  | .release => "int"
  | .hasOneRef => "int"
  | .hasAtLeastOneRef => "int"

end Capability

/-- The kinds of root. -/
inductive RootStruct where
  | refCounted
  | scoped
  deriving DecidableEq, Repr

namespace RootStruct

/-- The logical name. -/
def name : RootStruct → String
  | .refCounted => "RefCounted"
  | .scoped => "Scoped"

/-- The root with a struct name. The reference-counted root has an older name beside its own. -/
def ofAbiName? (abiName : String) : Option RootStruct :=
  if abiName = "cef_base_ref_counted_t" ∨ abiName = "cef_base_t" then some .refCounted
  else if abiName = "cef_base_scoped_t" then some .scoped
  else none

/-- The name of the root's struct. -/
def abiName : RootStruct → String
  | .refCounted => "cef_base_ref_counted_t"
  | .scoped => "cef_base_scoped_t"

/-- The functions of the root, in the order of its struct. -/
def capabilities : RootStruct → List Capability
  | .refCounted => [.addRef, .release, .hasOneRef, .hasAtLeastOneRef]
  | .scoped => [.del]

end RootStruct

end Bindery
