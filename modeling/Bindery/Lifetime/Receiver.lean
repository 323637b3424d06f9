import Bindery.Lifetime.Guard
import Bindery.Lifetime.Registry

/-! # Receivers

A receiver is a managed object that native code holds by the handle of a native block. Native code
retains and releases it; the count of what it retains decides the phase of the receiver.
-/

namespace Bindery.Lifetime

/-- What a receiver has gone through. -/
inductive Phase where
  /-- Native code has not held it yet. -/
  | constructed
  /-- Native code holds it. -/
  | active
  /-- Native code has let it go, or it was disposed. -/
  | released
  deriving DecidableEq, Repr

/-- The name of a phase. -/
def Phase.display : Phase → String
  | .constructed => "Constructed"
  | .active => "Active"
  | .released => "Released"

/-- How a receiver behaves. -/
structure Options where
  /-- It is disposed when native code lets it go. -/
  autoDispose : Bool
  /-- It can be looked up by its handle. -/
  reversible : Bool
  deriving DecidableEq, Repr

/-- Registries are numbered. -/
abbrev RegistryId := Nat

/-- The registry that all parts of a program share. -/
def globalRegistry : RegistryId := 0

/-- A receiver with everything that changes about it. -/
structure Receiver (V : Type) where
  value : V
  handle : Handle
  options : Options
  registry : RegistryId
  /-- Something is called at its disposal. -/
  hooked : Bool
  /-- What native code has retained and not released. -/
  count : Nat
  phase : Phase
  /-- Taken by the one that disposes it. -/
  guard : Guard
  /-- The native block has not been freed. -/
  blockLive : Bool
  /-- The references to it, in managed code and in registries. Without any it is gone. -/
  holders : Nat
  deriving DecidableEq

namespace Receiver

variable {V : Type}

/-- A new receiver, with a block at a handle and one reference to it. -/
def fresh (value : V) (handle : Handle) (options : Options) (registry : RegistryId)
    (hooked : Bool) : Receiver V where
  value
  handle
  options
  registry
  hooked
  count := 0
  phase := .constructed
  guard := .fresh
  blockLive := true
  holders := 1

/-- Whether native code holds exactly one reference. -/
def hasOneReference (receiver : Receiver V) : Bool := receiver.count == 1

/-- Whether native code holds a reference. -/
def hasReference (receiver : Receiver V) : Bool := receiver.count ≥ 1

/-- Whether the disposal of a receiver has begun. -/
def isDisposed (receiver : Receiver V) : Bool := receiver.guard.taken

/-- The receiver after one more reference for native code. Once released it gives out none. -/
def retained (receiver : Receiver V) : Except Fault (Receiver V) :=
  if receiver.phase = .released then .error (.released receiver.handle)
  else .ok { receiver with count := receiver.count + 1, phase := .active }

/-- The receiver after native code has given one reference back. With the last one it is
released. -/
def givenBack (receiver : Receiver V) : Except Fault (Receiver V) :=
  match receiver.count with
  | 0 =>
    .error (if receiver.phase = .released then .released receiver.handle
      else .unbalanced receiver.handle)
  | 1 => .ok { receiver with count := 0, phase := .released }
  | n + 2 => .ok { receiver with count := n + 1 }

/-- Refuses a handle that is not the receiver's own. -/
def checkSelf (receiver : Receiver V) (handle : Handle) : Except Fault Unit :=
  if handle = receiver.handle then .ok () else .error (.invalidSelf receiver.handle handle)

/-- A receiver in words. -/
def display (receiver : Receiver V) : String :=
  s!"Receiver \x7b handle: {receiver.handle.fieldText}, count: {receiver.count}, phase: {receiver.phase.display}, disposed: {receiver.isDisposed} \x7d"

end Receiver

end Bindery.Lifetime
