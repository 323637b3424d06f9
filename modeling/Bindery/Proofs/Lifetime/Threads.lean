import Bindery.Proofs.Lifetime.Sections

/-! # Programs with threads

Managed code creates receivers, passes references around, drops them at any time and calls
operations with those that it has. A call is its first section; what is left to do of it goes on in
a thread of its own, between the sections of all others. References may even be dropped while a call
that was made with them goes on. A block comes at an address where no other block is, and the
address is free again once the block is.
-/

namespace Bindery.Lifetime

variable {V : Type}

/-- A world, the references of managed code to each receiver, and what is left to do in each
thread. -/
structure Program (V : Type) where
  world : World V
  owned : ReceiverId → Nat
  threads : List (List Job)

/-- Managed code has one reference more to a receiver. -/
def gain (owned : ReceiverId → Nat) (id : ReceiverId) : ReceiverId → Nat :=
  fun other => if other = id then owned other + 1 else owned other

/-- Managed code has one reference less to a receiver. -/
def lose (owned : ReceiverId → Nat) (id : ReceiverId) : ReceiverId → Nat :=
  fun other => if other = id then owned other - 1 else owned other

/-- How often a job is left to do. -/
def waiting (threads : List (List Job)) (job : Job) : Nat := threads.flatten.count job

namespace Program

/-- The program that has done nothing yet. -/
def start : Program V := ⟨.empty, fun _ => 0, []⟩

/-- Creates a receiver and keeps a reference to it. -/
def create (p : Program V) (value : V) (handle : Handle) (options : Options)
    (registry : RegistryId) (hooked : Bool) : Program V :=
  { p with
    world := p.world.create value handle options registry hooked
    owned := gain p.owned p.world.receivers.length }

/-- Makes another reference to a receiver. -/
def clone (p : Program V) (id : ReceiverId) : Program V :=
  { p with world := p.world.hold id, owned := gain p.owned id }

/-- Drops a reference to a receiver. -/
def drop (p : Program V) (id : ReceiverId) : Program V :=
  { p with owned := lose p.owned id, threads := p.threads ++ [[.letGo id]] }

/-- Retains a receiver for native code. -/
def retain (p : Program V) (id : ReceiverId) : Program V :=
  match p.world.retainSection id with
  | (.error _, world) => { p with world }
  | (.ok (_, displaced), world) =>
    { p with world, threads := p.threads ++ [Job.ofItem displaced] }

/-- Gives a reference of native code back. -/
def release (p : Program V) (id : ReceiverId) : Program V :=
  match p.world.releaseSection (p.world.registryOf id) id with
  | (.error _, world) => { p with world }
  | (.ok (last, removed), world) =>
    { p with world, threads := p.threads ++ [releaseJobs id last removed] }

/-- Disposes a receiver. -/
def dispose (p : Program V) (id : ReceiverId) : Program V :=
  { p with threads := p.threads ++ [[.dispose id]] }

/-- Takes a reference back that native code passes as a handle, and keeps one to the receiver. -/
def lookup (p : Program V) (registry : RegistryId) (expected : V → Bool) (handle : Handle) :
    Program V :=
  match p.world.lookupSection registry expected handle with
  | (.error _, world) => { p with world }
  | (.ok (id, last, removed), world) =>
    ⟨world, gain p.owned id, p.threads ++ [releaseJobs id last removed]⟩

/-- A thread goes on with the section of its next job. -/
def turn (p : Program V) (before : List (List Job)) (job : Job) (rest : List Job)
    (after : List (List Job)) : Program V :=
  ⟨(job.perform p.world).1, p.owned, before ++ ((job.perform p.world).2 ++ rest) :: after⟩

/-- The steps of a program. -/
inductive Step : Program V → Program V → Prop where
  | create {p : Program V} (value : V) {handle : Handle} (options : Options)
      (registry : RegistryId) (hooked : Bool) (somewhere : handle.isNull = false)
      (free : ∀ r ∈ p.world.receivers, r.blockLive = true → r.handle ≠ handle) :
      Step p (p.create value handle options registry hooked)
  | clone {p : Program V} {id : ReceiverId} (owned : 0 < p.owned id) : Step p (p.clone id)
  | drop {p : Program V} {id : ReceiverId} (owned : 0 < p.owned id) : Step p (p.drop id)
  | retain {p : Program V} {id : ReceiverId} (owned : 0 < p.owned id) : Step p (p.retain id)
  | release {p : Program V} {id : ReceiverId} (owned : 0 < p.owned id) : Step p (p.release id)
  | dispose {p : Program V} {id : ReceiverId} (owned : 0 < p.owned id) : Step p (p.dispose id)
  | lookup {p : Program V} (registry : RegistryId) (expected : V → Bool) (handle : Handle) :
      Step p (p.lookup registry expected handle)
  | turn {p : Program V} {before after : List (List Job)} {job : Job} {rest : List Job}
      (next : p.threads = before ++ (job :: rest) :: after) :
      Step p (p.turn before job rest after)

/-- The states that a program can come to. -/
inductive Reachable : Program V → Prop where
  | start : Reachable start
  | step {p q : Program V} (reached : Reachable p) (step : Step p q) : Reachable q

end Program

end Bindery.Lifetime
