/-! # Guards

A guard lets one of all those through who try it, the first.
-/

namespace Bindery.Lifetime

/-- A flag that can be taken once. -/
structure Guard where
  taken : Bool
  deriving DecidableEq, Repr

namespace Guard

/-- A guard that nobody has taken. -/
def fresh : Guard := ⟨false⟩

/-- Tries to take a guard: whether it succeeded, and the guard from then on. This is one step that
nothing else comes between. -/
def take (guard : Guard) : Bool × Guard := (!guard.taken, ⟨true⟩)

end Guard

end Bindery.Lifetime
