import Bindery.Table

/-! # Dictionaries of types

A dictionary gives the target names of native types, and says which target return types come in
one variant per platform.
-/

namespace Bindery

/-- Target names of native types, by bare native name. -/
structure Dictionary where
  /-- Plain types and structs. -/
  concrete : Table String
  /-- Enumerations. -/
  enums : Table String
  /-- The name endings of the variants of a target return type. -/
  platformReturns : Table (List String)
  deriving Inhabited

namespace Dictionary

/-- The dictionary without entries. -/
def empty : Dictionary := ⟨∅, ∅, ∅⟩

/-- Lays a dictionary over another, table by table. -/
def merge (base other : Dictionary) : Dictionary where
  concrete := base.concrete.merge other.concrete
  enums := base.enums.merge other.enums
  platformReturns := base.platformReturns.merge other.platformReturns

end Dictionary

end Bindery
