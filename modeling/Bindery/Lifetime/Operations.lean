import Bindery.Lifetime.World

/-! # Operations

What can be done with receivers and registries, each from its beginning to its end. The one that
calls an operation of a receiver holds a reference to it.
-/

namespace Bindery.Lifetime.World

variable {V : Type}

/-- Disposes a receiver. Only the first disposal does anything; answers whether it is this one. -/
def dispose (world : World V) (id : ReceiverId) : Bool × World V :=
  match world.takeGuard id with
  | (false, world) => (false, world)
  | (true, world) => (true, ((world.unroot id).freeBlock id).announce id)

/-- Gives up a reference to a receiver. With the last one the receiver is disposed. -/
def letGo (world : World V) (id : ReceiverId) : World V :=
  match world.unhold id with
  | (false, world) => world
  | (true, world) => (world.dispose id).2

/-- Gives up an item that a registry held. -/
def letItemGo (world : World V) : Option (Item V) → World V
  | some (.receiver id) => world.letGo id
  | _ => world

/-- Ends the release of a receiver that native code has let go. -/
def finishRelease (world : World V) (id : ReceiverId) : World V :=
  match world.noteRelease id with
  | (false, world) => world
  | (true, world) => (world.dispose id).2

/-- Retains a receiver for native code. Answers the count. -/
def retain (world : World V) (id : ReceiverId) : Except Fault Nat × World V :=
  match world.retainSection id with
  | (.error fault, world) => (.error fault, world)
  | (.ok (count, displaced), world) => (.ok count, world.letItemGo displaced)

/-- Retains a receiver for native code. Answers its handle. -/
def toNative (world : World V) (id : ReceiverId) : Except Fault Handle × World V :=
  match world.retain id with
  | (.error fault, next) => (.error fault, next)
  | (.ok _, next) => (.ok ((world.receivers[id]?.map Receiver.handle).getD .null), next)

/-- The registry in which a receiver is entered. -/
def registryOf (world : World V) (id : ReceiverId) : RegistryId :=
  (world.receivers[id]?.map Receiver.registry).getD globalRegistry

/-- Gives a reference of native code back. Answers whether it was the last one. -/
def release (world : World V) (id : ReceiverId) : Except Fault Bool × World V :=
  match world.releaseSection (world.registryOf id) id with
  | (.error fault, world) => (.error fault, world)
  | (.ok (last, removed), world) =>
    let world := world.letItemGo removed
    (.ok last, if last then world.finishRelease id else world)

/-- Takes a reference back that native code passes as a handle. Answers the receiver, to which the
caller now has a reference. -/
def lookup (world : World V) (registry : RegistryId) (expected : V → Bool) (handle : Handle) :
    Except Fault ReceiverId × World V :=
  match world.lookupSection registry expected handle with
  | (.error fault, world) => (.error fault, world)
  | (.ok (id, last, removed), world) =>
    let world := world.letItemGo removed
    (.ok id, if last then world.finishRelease id else world)

/-- Puts an item at a handle of a registry. Answers whether something else lived there. -/
def register (world : World V) (registry : RegistryId) (handle : Handle) (item : Item V) :
    Bool × World V :=
  let (displaced, world) := world.insertItem registry handle item
  (displaced.isSome, world.letItemGo displaced)

/-- Removes what lives at a handle of a registry. Answers whether anything did. -/
def unregister (world : World V) (registry : RegistryId) (handle : Handle) : Bool × World V :=
  let (removed, world) := world.removeItem registry handle
  (removed.isSome, world.letItemGo removed)

end Bindery.Lifetime.World
