import Bindery.Role
import Bindery.Table

/-! # Classification of classes

What is generated for a class depends on a flat table of traits, keyed by the logical class name.
A class that is not listed has the role without bits, keeps its name and has no further trait.
-/

namespace Bindery

/-- What a classification says about one class. -/
structure Traits where
  role : Role
  /-- The name of the generated wrapper, when it differs from the logical name. -/
  rename : Option String
  /-- Native references can be turned back into the managed object. -/
  isReversible : Bool
  /-- The object is disposed of when its last native reference goes. -/
  disposesItself : Bool
  /-- The generated wrapper is open to derived classes. -/
  isAbstract : Bool
  deriving DecidableEq, Inhabited

/-- Traits with a role and nothing else. -/
def Traits.ofRole (role : Role) : Traits := ⟨role, none, false, false, false⟩

/-- Traits by logical class name. -/
structure Classification where
  classes : Table Traits
  deriving Inhabited

namespace Classification

/-- The classification that lists no class. -/
def empty : Classification := ⟨∅⟩

/-- Sets the traits of a class. -/
def insert (schema : Classification) (name : String) (traits : Traits) : Classification :=
  ⟨schema.classes.insert name traits⟩

/-- Lays a classification over another: its entries replace those of the same classes. -/
def merge (base other : Classification) : Classification := ⟨base.classes.merge other.classes⟩

/-- The traits of a listed class. -/
def get? (schema : Classification) (name : String) : Option Traits := schema.classes.get? name

/-- The number of listed classes. -/
def size (schema : Classification) : Nat := schema.classes.size

/-- The role of a class. -/
def role (schema : Classification) (name : String) : Role :=
  ((schema.get? name).map Traits.role).getD Role.none

/-- Whether managed code calls the class. -/
def isProxy (schema : Classification) (name : String) : Bool := (schema.role name).isProxy

/-- Whether managed code implements the class. -/
def isHandler (schema : Classification) (name : String) : Bool := (schema.role name).isHandler

/-- The name of the generated wrapper class. -/
def displayName (schema : Classification) (name : String) : String :=
  ((schema.get? name).bind Traits.rename).getD name

/-- Whether native references can be turned back into the managed object. -/
def isReversible (schema : Classification) (name : String) : Bool :=
  ((schema.get? name).map Traits.isReversible).getD false

/-- Whether the object is disposed of with its last native reference. -/
def disposesItself (schema : Classification) (name : String) : Bool :=
  ((schema.get? name).map Traits.disposesItself).getD false

/-- Whether the generated wrapper is open to derived classes. -/
def isAbstract (schema : Classification) (name : String) : Bool :=
  ((schema.get? name).map Traits.isAbstract).getD false

/-- What the head of a generated wrapper says about its class. -/
def overview (schema : Classification) (name : String) : List String :=
  [s!"Role: {(schema.role name).display}"]

end Classification

end Bindery
