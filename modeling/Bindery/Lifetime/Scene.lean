import Bindery.Lifetime.Operations
import Bindery.Lifetime.Proxy

/-! # Managed code in its world

Managed code has at most one reference to each receiver in hand, and owns proxies and guards. What
it drops is given up for good; a proxy that is dropped gives back its native reference if it still
has it.
-/

namespace Bindery.Lifetime

/-- What managed code has in hand, and the world in which it does. -/
structure Scene (V : Type) where
  world : World V
  /-- For each receiver, whether there is a reference to it in hand. -/
  held : List Bool
  /-- The proxies in the order of their making, without those that were dropped. -/
  proxies : List (Option Proxy)
  guards : List Guard
  /-- The handles of the references that proxies have given back. -/
  returned : List Handle

namespace Scene

variable {V : Type}

/-- The scene with nothing in it. -/
def empty : Scene V := ⟨.empty, [], [], [], []⟩

/-- Changes the world. -/
def inWorld {α : Type} (scene : Scene V) (operation : World V → α × World V) : α × Scene V :=
  let (result, world) := operation scene.world
  (result, { scene with world })

/-- Creates a receiver, with a reference to it in hand. -/
def create (scene : Scene V) (value : V) (handle : Handle) (options : Options)
    (registry : RegistryId) (hooked : Bool) : Scene V :=
  { scene with
    world := scene.world.create value handle options registry hooked
    held := scene.held ++ [true] }

/-- The receiver to which there is a reference in hand. -/
def receiver? (scene : Scene V) (id : ReceiverId) : Option (Receiver V) :=
  if scene.held[id]? = some true then scene.world.receivers[id]? else none

/-- Drops the reference to a receiver. -/
def drop (scene : Scene V) (id : ReceiverId) : Scene V :=
  match scene.receiver? id with
  | none => scene
  | some _ => { scene with world := scene.world.letGo id, held := scene.held.set id false }

/-- Takes a reference in hand that a lookup has found. A second one is given up. -/
def keep (scene : Scene V) (id : ReceiverId) : Scene V :=
  match scene.receiver? id with
  | none => { scene with held := scene.held.set id true }
  | some _ => { scene with world := scene.world.letGo id }

/-- Looks up the receiver of a handle that native code passes, and keeps the reference or gives it
up. -/
def lookup (scene : Scene V) (registry : RegistryId) (expected : V → Bool) (handle : Handle)
    (keeps : Bool) : Except Fault ReceiverId × Scene V :=
  match scene.world.lookup registry expected handle with
  | (.error fault, world) => (.error fault, { scene with world })
  | (.ok id, world) =>
    (.ok id, if keeps then { scene with world }.keep id else { scene with world := world.letGo id })

/-- A proxy in hand. -/
def proxy? (scene : Scene V) (number : Nat) : Option Proxy := scene.proxies[number]?.join

/-- Adds a proxy. Answers its number. -/
def addProxy (scene : Scene V) (proxy : Proxy) : Nat × Scene V :=
  (scene.proxies.length, { scene with proxies := scene.proxies ++ [some proxy] })

/-- Makes a proxy for a reference. Answers its number. -/
def own (scene : Scene V) (handle : Handle) : Except Fault Nat × Scene V :=
  match Proxy.own handle with
  | .error fault => (.error fault, scene)
  | .ok proxy => (scene.addProxy proxy).map .ok id

/-- Makes a proxy for what native code has returned, if that is a reference. -/
def ownReturned (scene : Scene V) (handle : Handle) : Option Nat × Scene V :=
  match Proxy.ofNative? handle with
  | none => (none, scene)
  | some proxy => (scene.addProxy proxy).map some id

/-- Disposes a proxy. Answers whether it still had its reference. -/
def disposeProxy (scene : Scene V) (number : Nat) : Bool × Scene V :=
  match scene.proxy? number with
  | none => (false, scene)
  | some proxy =>
    let (returned, proxy) := proxy.dispose
    (returned.isSome, { scene with
      proxies := scene.proxies.set number (some proxy)
      returned := scene.returned ++ returned.toList })

/-- Drops a proxy, which disposes it. -/
def dropProxy (scene : Scene V) (number : Nat) : Scene V :=
  let (_, scene) := scene.disposeProxy number
  { scene with proxies := scene.proxies.set number none }

/-- Drops all proxies in order. -/
def dropProxies (scene : Scene V) : Scene V :=
  (List.range scene.proxies.length).foldl dropProxy scene

/-- Drops all references in order. -/
def dropAll (scene : Scene V) : Scene V := (List.range scene.held.length).foldl drop scene

/-- Gives up what a registry holds. -/
def clear (scene : Scene V) (registry : RegistryId) : Scene V :=
  (scene.world.registries registry).entries.foldl
    (fun scene entry => (scene.inWorld (·.unregister registry entry.1)).2) scene

/-- Adds a guard. Answers its number. -/
def addGuard (scene : Scene V) : Nat × Scene V :=
  (scene.guards.length, { scene with guards := scene.guards ++ [.fresh] })

/-- Tries to take a guard. There is no answer for a number that no guard has. -/
def takeGuard (scene : Scene V) (number : Nat) : Option Bool × Scene V :=
  match scene.guards[number]? with
  | none => (none, scene)
  | some guard => (some guard.take.1, { scene with guards := scene.guards.set number guard.take.2 })

/-- Forgets what was noticed so far. -/
def quiet (scene : Scene V) : Scene V :=
  { scene with world := { scene.world with events := [] }, returned := [] }

end Scene

end Bindery.Lifetime
