import Bindery.Lifetime.Handle

/-! # Registries

A registry maps handles to what lives there. What it holds stays alive for as long as it is held.
-/

namespace Bindery.Lifetime

/-- Receivers are numbered in the order of their creation. -/
abbrev ReceiverId := Nat

/-- What a registry can hold: a value of its own, or a reference to a receiver. -/
inductive Item (V : Type) where
  | plain (value : V)
  | receiver (id : ReceiverId)
  deriving DecidableEq

/-- The receiver that an item refers to. -/
def Item.receiver? {V : Type} : Item V → Option ReceiverId
  | .plain _ => none
  | .receiver id => some id

/-- The items of a registry, no two at one handle. -/
structure Registry (V : Type) where
  entries : List (Handle × Item V)
  distinct : (entries.map Prod.fst).Nodup

namespace Registry

variable {V : Type}

/-- The registry that holds nothing. -/
def empty : Registry V := ⟨[], by simp⟩

/-- What lives at a handle. -/
def get? (registry : Registry V) (handle : Handle) : Option (Item V) :=
  registry.entries.lookup handle

/-- Whether anything lives at a handle. -/
def contains (registry : Registry V) (handle : Handle) : Bool := (registry.get? handle).isSome

/-- Gives up what lives at a handle. -/
def remove (registry : Registry V) (handle : Handle) : Registry V where
  entries := registry.entries.filter fun entry => entry.1 ≠ handle
  distinct := registry.distinct.sublist (List.filter_sublist.map _)

/-- Puts an item at a handle, in place of what lived there. -/
def insert (registry : Registry V) (handle : Handle) (item : Item V) : Registry V where
  entries := (handle, item) :: (registry.remove handle).entries
  distinct := List.nodup_cons.mpr
    ⟨by simp [remove], (registry.remove handle).distinct⟩

/-- The number of handles at which something lives. -/
def size (registry : Registry V) : Nat := registry.entries.length

/-- The value of its own that a registry holds at a handle, if it is of the expected kind. -/
def value? (registry : Registry V) (expected : V → Bool) (handle : Handle) : Option V :=
  match registry.get? handle with
  | some (.plain value) => if expected value then some value else none
  | _ => none

/-- A registry in words. -/
def display (registry : Registry V) : String :=
  s!"HandleRegistry \x7b entries: {registry.size} \x7d"

end Registry

end Bindery.Lifetime
