import Bindery.Lifetime.Receiver
import Bindery.Log

/-! # Receivers and registries together

The functions here that change a world are the sections that take place under a lock, or are one
step for another reason: nothing comes between their parts. Whole operations are made of them.

A number that no receiver has stands for a receiver that is gone: its operations are refused like
those of a released one, and change nothing.
-/

namespace Bindery.Lifetime

/-- What the outside notices. -/
inductive Event (V : Type) where
  | logged (record : Record)
  /-- The hook of a receiver was called with its value. -/
  | hooked (id : ReceiverId) (value : V)
  deriving DecidableEq

/-- All receivers, all registries and what has been noticed of them. -/
structure World (V : Type) where
  receivers : List (Receiver V)
  registries : RegistryId → Registry V
  events : List (Event V)

namespace World

variable {V : Type}

/-- The world with nothing in it. -/
def empty : World V := ⟨[], fun _ => .empty, []⟩

/-- Changes a receiver. -/
def setReceiver (world : World V) (id : ReceiverId) (receiver : Receiver V) : World V :=
  { world with receivers := world.receivers.set id receiver }

/-- Changes a registry. -/
def setRegistry (world : World V) (id : RegistryId) (registry : Registry V) : World V :=
  { world with
    registries := fun other => if other = id then registry else world.registries other }

/-- Adds an event. -/
def addEvent (world : World V) (event : Event V) : World V :=
  { world with events := world.events ++ [event] }

/-- Writes a log record. -/
def note (world : World V) (level : Level) (text : String) : World V :=
  world.addEvent (.logged ⟨level, text⟩)

/-- Creates a receiver with a block at a handle. -/
def create (world : World V) (value : V) (handle : Handle) (options : Options)
    (registry : RegistryId) (hooked : Bool) : World V :=
  { world with receivers := world.receivers ++ [.fresh value handle options registry hooked] }

/-- Adds a reference to a receiver. -/
def hold (world : World V) (id : ReceiverId) : World V :=
  match world.receivers[id]? with
  | none => world
  | some receiver => world.setReceiver id { receiver with holders := receiver.holders + 1 }

/-- Takes a reference to a receiver away. Answers whether it was the last one. -/
def unhold (world : World V) (id : ReceiverId) : Bool × World V :=
  match world.receivers[id]? with
  | none => (false, world)
  | some receiver =>
    (receiver.holders == 1,
      world.setReceiver id { receiver with holders := receiver.holders - 1 })

/-- Puts an item at a handle of a registry. Answers what lived there, which is not held any more. -/
def insertItem (world : World V) (registry : RegistryId) (handle : Handle) (item : Item V) :
    Option (Item V) × World V :=
  let held := match item with
    | .plain _ => world
    | .receiver id => world.hold id
  ((world.registries registry).get? handle,
    held.setRegistry registry ((world.registries registry).insert handle item))

/-- Takes what lives at a handle out of a registry. -/
def removeItem (world : World V) (registry : RegistryId) (handle : Handle) :
    Option (Item V) × World V :=
  ((world.registries registry).get? handle,
    world.setRegistry registry ((world.registries registry).remove handle))

/-- Retains a receiver: the new count, and what its entry displaced. The first reference enters the
receiver in its registry. -/
def retainSection (world : World V) (id : ReceiverId) :
    Except Fault (Nat × Option (Item V)) × World V :=
  match world.receivers[id]? with
  | none => (.error (.released .null), world)
  | some receiver =>
    match receiver.retained with
    | .error fault => (.error fault, world)
    | .ok next =>
      let world := world.setReceiver id next
      if next.count = 1 then
        let (displaced, world) := world.insertItem next.registry next.handle (.receiver id)
        (.ok (1, displaced), world)
      else (.ok (next.count, none), world)

/-- Gives a reference back to a receiver, under the lock of a registry: whether it was the last one,
and what was then taken out of that registry at the receiver's handle. -/
def releaseSection (world : World V) (registry : RegistryId) (id : ReceiverId) :
    Except Fault (Bool × Option (Item V)) × World V :=
  match world.receivers[id]? with
  | none => (.error (.released .null), world)
  | some receiver =>
    match receiver.givenBack with
    | .error fault => (.error fault, world)
    | .ok next =>
      let world := world.setReceiver id next
      if next.count = 0 then
        let (removed, world) := world.removeItem registry next.handle
        (.ok (true, removed), world)
      else (.ok (false, none), world)

/-- Finds the receiver that lives at a handle of a registry, if it is of the expected kind and can
be looked up, and gives a reference back to it, as native code has passed one with the handle. The
receiver found is held by the one who asks. -/
def lookupSection (world : World V) (registry : RegistryId) (expected : V → Bool)
    (handle : Handle) : Except Fault (ReceiverId × Bool × Option (Item V)) × World V :=
  if handle.isNull then (.error .nullHandle, world)
  else
    match (world.registries registry).get? handle with
    | some (.receiver id) =>
      match world.receivers[id]? with
      | some receiver =>
        if expected receiver.value && receiver.options.reversible then
          match (world.hold id).releaseSection registry id with
          | (.error fault, _) => (.error fault, world)
          | (.ok (last, removed), world) => (.ok (id, last, removed), world)
        else (.error (.notFound handle), world)
      | none => (.error (.notFound handle), world)
    | _ => (.error (.notFound handle), world)

/-- Tries to take the guard of a receiver. -/
def takeGuard (world : World V) (id : ReceiverId) : Bool × World V :=
  match world.receivers[id]? with
  | none => (false, world)
  | some receiver =>
    (receiver.guard.take.1, world.setReceiver id { receiver with guard := receiver.guard.take.2 })

/-- Releases a receiver that is being disposed, and takes its own entry out of its registry together
with the reference that the entry was. That is never the last one, for the one that disposes a
receiver holds it, unless there is no reference left at all, and then there is no entry either. -/
def unroot (world : World V) (id : ReceiverId) : World V :=
  match world.receivers[id]? with
  | none => world
  | some receiver =>
    match (world.registries receiver.registry).get? receiver.handle with
    | some (.receiver entry) =>
      if entry = id then
        let world := if receiver.count = 0 then world else
          world.note .warn
            s!"{receiver.handle.display} disposed with {receiver.count} native reference(s) outstanding"
        ((world.setReceiver id { receiver with
            phase := .released, count := 0, holders := receiver.holders - 1 }).removeItem
          receiver.registry receiver.handle).2
      else world.setReceiver id { receiver with phase := .released }
    | _ => world.setReceiver id { receiver with phase := .released }

/-- Frees the block of a receiver. -/
def freeBlock (world : World V) (id : ReceiverId) : World V :=
  match world.receivers[id]? with
  | none => world
  | some receiver => world.setReceiver id { receiver with blockLive := false }

/-- Calls the hook of a receiver, and notes its disposal. -/
def announce (world : World V) (id : ReceiverId) : World V :=
  match world.receivers[id]? with
  | none => world
  | some receiver =>
    let world := if receiver.hooked then world.addEvent (.hooked id receiver.value) else world
    world.note .trace s!"{receiver.handle.display} disposed"

/-- Notes that native code has let a receiver go. Answers whether that disposes the receiver. -/
def noteRelease (world : World V) (id : ReceiverId) : Bool × World V :=
  match world.receivers[id]? with
  | none => (false, world)
  | some receiver =>
    (receiver.options.autoDispose, world.note .trace s!"{receiver.handle.display} released")

end World

end Bindery.Lifetime
