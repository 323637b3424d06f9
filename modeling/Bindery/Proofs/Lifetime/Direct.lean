import Bindery.Proofs.Lifetime.Threads

/-! # Direct calls on registries

Whoever shares a registry can put items into it and take them out, at any handle and at any time,
receivers included. What receivers then take out is not only their own. Main statement: the states
in which nothing that is done for a receiver takes out another item are exactly those in which a
receiver whose last reference may be given back has nothing but itself at its handle
(`takesOnlyItself_iff`).
-/

namespace Bindery.Lifetime

variable {V : Type}

/-- What can be done with a registry itself. -/
inductive Direct (V : Type) where
  | insert (registry : RegistryId) (handle : Handle) (item : Item V)
  | remove (registry : RegistryId) (handle : Handle)

namespace Direct

/-- The registry of a call. -/
def registry : Direct V → RegistryId
  | insert registry _ _ | remove registry _ => registry

/-- The handle of a call. -/
def handle : Direct V → Handle
  | insert _ handle _ | remove _ handle => handle

/-- The receiver that a call puts in. -/
def entering? : Direct V → Option ReceiverId
  | insert _ _ item => item.receiver?
  | remove _ _ => none

end Direct

/-- The receiver that a job is about. -/
def Job.receiver : Job → ReceiverId
  | .letGo id | .finishRelease id | .dispose id | .unroot id | .freeBlock id | .announce id => id

namespace Program

/-- Managed code gets the reference that a registry has had. -/
def regain (owned : ReceiverId → Nat) : Option (Item V) → ReceiverId → Nat
  | some (.receiver id) => gain owned id
  | _ => owned

/-- Calls a registry. Of a receiver, a further reference is put in; what lived at the handle is
handed out. -/
def direct (p : Program V) : Direct V → Program V
  | .insert registry handle item =>
    let (displaced, world) := p.world.insertItem registry handle item
    { p with world, owned := regain p.owned displaced }
  | .remove registry handle =>
    let (removed, world) := p.world.removeItem registry handle
    { p with world, owned := regain p.owned removed }

/-- The states that a program can come to when registries are called as well, as far as is
permitted. A receiver is put in by one that has a reference to it. -/
inductive ReachableWith (permits : Program V → Direct V → Prop) : Program V → Prop where
  | start : ReachableWith permits start
  | step {p q : Program V} (reached : ReachableWith permits p) (step : Step p q) :
      ReachableWith permits q
  | direct {p : Program V} {call : Direct V} (reached : ReachableWith permits p)
      (owned : ∀ id, call.entering? = some id → 0 < p.owned id) (permitted : permits p call) :
      ReachableWith permits (p.direct call)

/-- What is done for a receiver: one of its operations begins, or a thread goes on with a job that
is about it. -/
inductive ActsFor (id : ReceiverId) : Program V → Program V → Prop where
  | release {p : Program V} (owned : 0 < p.owned id) : ActsFor id p (p.release id)
  | lookup {p : Program V} {registry : RegistryId} {expected : V → Bool} {handle : Handle}
      {last : Bool} {removed : Option (Item V)}
      (found : (p.world.lookupSection registry expected handle).1 = .ok (id, last, removed)) :
      ActsFor id p (p.lookup registry expected handle)
  | dispose {p : Program V} (owned : 0 < p.owned id) : ActsFor id p (p.dispose id)
  | drop {p : Program V} (owned : 0 < p.owned id) : ActsFor id p (p.drop id)
  | turn {p : Program V} {before after : List (List Job)} {job : Job} {rest : List Job}
      (next : p.threads = before ++ (job :: rest) :: after) (about : job.receiver = id) :
      ActsFor id p (p.turn before job rest after)

/-- An item lives at a handle of a registry, and then it does not any more. -/
def Removes (p q : Program V) (registry : RegistryId) (handle : Handle) (item : Item V) : Prop :=
  (p.world.registries registry).get? handle = some item ∧
    (q.world.registries registry).get? handle ≠ some item

/-- Nothing that is done for a receiver takes out another item than the receiver itself. -/
def TakesOnlyItself (p : Program V) : Prop :=
  ∀ id q, ActsFor id p q → ∀ registry handle item, Removes p q registry handle item →
    item = .receiver id

/-- A reference of native code to a receiver may be given back under the lock of a registry: the one
in which the receiver is entered by those who have it, and any in which it can be looked up. -/
inductive GivesBackIn (p : Program V) (id : ReceiverId) (r : Receiver V) : RegistryId → Prop where
  | release (owned : 0 < p.owned id) : GivesBackIn p id r r.registry
  | lookup {registry : RegistryId} {handle : Handle} (somewhere : handle.isNull = false)
      (entered : (p.world.registries registry).get? handle = some (.receiver id))
      (reversible : r.options.reversible = true) : GivesBackIn p id r registry

/-- A receiver whose last reference may be given back has nothing but itself at its handle. -/
def Undisplaced (p : Program V) : Prop :=
  ∀ id r, p.world.receivers[id]? = some r → r.count = 1 → ∀ registry, GivesBackIn p id r registry →
    ∀ item, (p.world.registries registry).get? r.handle = some item → item = .receiver id

end Program

/-! ## What sections take out -/

namespace World

variable {world : World V} {id : ReceiverId} {r : Receiver V}

/-- Giving the last reference back takes out whatever lives at the handle of the receiver. -/
theorem get?_releaseSection (found : world.receivers[id]? = some r) (registry other : RegistryId)
    (place : Handle) :
    ((world.releaseSection registry id).2.registries other).get? place =
      if r.count = 1 ∧ other = registry ∧ place = r.handle then none
      else (world.registries other).get? place := by
  rw [releaseSection_removing found]
  match counted : r.count with
  | 0 | n + 2 => simp
  | 1 =>
    simp only [registries_setRegistry, registries_setReceiver]
    by_cases same : other = registry
    · subst same
      simp [Registry.get?_remove]
    · simp [same]

theorem registries_hold (world : World V) (id : ReceiverId) :
    (world.hold id).registries = world.registries := by
  rw [hold]
  split <;> rfl

/-- The disposal of a receiver takes out nothing but the receiver itself. -/
theorem get?_unroot {registry : RegistryId} {handle : Handle} {item : Item V}
    (lives : (world.registries registry).get? handle = some item) (apart : item ≠ .receiver id) :
    ((world.unroot id).registries registry).get? handle = some item := by
  simp only [unroot]
  cases found : world.receivers[id]? with
  | none => exact lives
  | some r =>
    simp only
    split
    · next entry entered =>
      split
      · next own =>
        have noted : ∀ noted : World V, noted.registries = world.registries →
            (((noted.setReceiver id { r with
                phase := .released, count := 0, holders := r.holders - 1 }).removeItem
              r.registry r.handle).2.registries registry).get? handle = some item := by
          intro noted same
          rw [removeItem, registries_setRegistry, registries_setReceiver, same]
          split
          · next here =>
            subst here
            rw [Registry.get?_remove, if_neg, lives]
            rintro rfl
            rw [entered, own] at lives
            exact apart (Option.some.inj lives).symm
          · exact lives
        exact noted _ (by split <;> rfl)
      · exact lives
    · exact lives

/-- No other job takes anything out. -/
theorem registries_perform (world : World V) {job : Job} (other : job ≠ .unroot job.receiver) :
    (job.perform world).1.registries = world.registries := by
  cases job with
  | letGo id =>
    cases found : world.receivers[id]? with
    | none => simp only [Job.perform, unhold, found]
    | some r =>
      simp only [Job.perform, unhold_eq found]
      cases r.holders == 1 <;> rfl
  | finishRelease id =>
    cases found : world.receivers[id]? with
    | none => simp only [Job.perform, noteRelease, found]
    | some r =>
      simp only [Job.perform, noteRelease_eq found]
      cases r.options.autoDispose <;> rfl
  | dispose id =>
    cases found : world.receivers[id]? with
    | none => simp only [Job.perform, takeGuard, found]
    | some r =>
      simp only [Job.perform, takeGuard_eq found]
      cases r.guard.taken <;> rfl
  | unroot id => exact absurd rfl other
  | freeBlock id =>
    simp only [Job.perform, freeBlock]
    split <;> rfl
  | announce id => exact registries_announce world id

end World

namespace Program

variable {p q : Program V} {id : ReceiverId} {r : Receiver V}

theorem world_release (p : Program V) (id : ReceiverId) :
    (p.release id).world = (p.world.releaseSection (p.world.registryOf id) id).2 := by
  rw [Program.release]
  split <;> simp only [*]

theorem world_lookup (p : Program V) (registry : RegistryId) (expected : V → Bool)
    (handle : Handle) :
    (p.lookup registry expected handle).world =
      (p.world.lookupSection registry expected handle).2 := by
  rw [Program.lookup]
  split <;> simp only [*]

/-- A release takes out what lives at the handle of a receiver that is held once. -/
theorem get?_release (found : p.world.receivers[id]? = some r) (registry : RegistryId)
    (place : Handle) :
    ((p.release id).world.registries registry).get? place =
      if r.count = 1 ∧ registry = r.registry ∧ place = r.handle then none
      else (p.world.registries registry).get? place := by
  rw [world_release, World.registryOf_eq found, World.get?_releaseSection found]

/-- So does a lookup, in the registry that is asked. -/
theorem get?_lookup {registry : RegistryId} {expected : V → Bool} {handle : Handle} {last : Bool}
    {removed : Option (Item V)}
    (settled : (p.world.lookupSection registry expected handle).1 = .ok (id, last, removed)) :
    ∃ r, p.world.receivers[id]? = some r ∧ GivesBackIn p id r registry ∧ ∀ other place,
      ((p.lookup registry expected handle).world.registries other).get? place =
        if r.count = 1 ∧ other = registry ∧ place = r.handle then none
        else (p.world.registries other).get? place := by
  obtain ⟨fault, refused⟩ |
      ⟨own, r, _, _, out, found, somewhere, entered, reversible, given, answered⟩ :=
    p.world.lookupSection_cases registry expected handle
  · rw [refused] at settled
    contradiction
  rw [answered] at settled
  obtain ⟨rfl, _⟩ := Prod.mk.inj (Except.ok.inj settled)
  refine ⟨r, found, .lookup somewhere entered reversible, fun other place => ?_⟩
  have holding := World.receivers_setReceiver_self found { r with holders := r.holders + 1 }
  rw [← World.hold_eq found] at holding
  have released := World.get?_releaseSection holding registry other place
  rw [given, World.registries_hold] at released
  rw [world_lookup, answered, released]

/-- A receiver that is held once and can be looked up is found as a value of any kind. -/
theorem exists_lookup {registry : RegistryId} {handle : Handle}
    (found : p.world.receivers[id]? = some r) (last : r.count = 1)
    (somewhere : handle.isNull = false)
    (entered : (p.world.registries registry).get? handle = some (.receiver id))
    (reversible : r.options.reversible = true) :
    ∃ last removed, (p.world.lookupSection registry (fun _ => true) handle).1 =
      .ok (id, last, removed) := by
  have holding := World.receivers_setReceiver_self found { r with holders := r.holders + 1 }
  rw [← World.hold_eq found] at holding
  simp only [World.lookupSection, somewhere, entered, found, reversible, World.releaseSection,
    holding, Receiver.givenBack, last]
  exact ⟨_, _, rfl⟩

/-- What is done for a receiver takes out the receiver itself, or it is a release or a lookup that
gives its last reference back, and takes out what lives at its handle. -/
theorem ActsFor.removes_cases {registry : RegistryId} {handle : Handle} {item : Item V}
    (acts : ActsFor id p q) (removes : Removes p q registry handle item) :
    item = .receiver id ∨
      (∃ r, p.world.receivers[id]? = some r ∧ r.count = 1 ∧ handle = r.handle ∧
        GivesBackIn p id r registry) ∧
      (q = p.release id ∨ ∃ expected place, q = p.lookup registry expected place) := by
  obtain ⟨lives, gone⟩ := removes
  cases acts with
  | release owned =>
    cases found : p.world.receivers[id]? with
    | none =>
      rw [world_release, World.releaseSection, found] at gone
      exact absurd lives gone
    | some r =>
      rw [get?_release found] at gone
      split at gone
      · next taken =>
        obtain ⟨last, rfl, rfl⟩ := taken
        exact .inr ⟨⟨r, rfl, last, rfl, .release owned⟩, .inl rfl⟩
      · exact absurd lives gone
  | @lookup asked _ _ _ _ settled =>
    obtain ⟨r, found, gives, after⟩ := get?_lookup settled
    rw [after] at gone
    split at gone
    · next taken =>
      obtain ⟨last, rfl, rfl⟩ := taken
      exact .inr ⟨⟨r, found, last, rfl, gives⟩, .inr ⟨_, _, rfl⟩⟩
    · exact absurd lives gone
  | dispose _ | drop _ => exact absurd lives gone
  | @turn before after job rest next about =>
    refine .inl ?_
    by_cases other : job = .unroot job.receiver
    · rw [about] at other
      subst other
      by_cases own : item = .receiver id
      · exact own
      · exact absurd (World.get?_unroot lives own) gone
    · have same : ((job.perform p.world).1.registries registry).get? handle = some item := by
        rw [World.registries_perform _ other, lives]
      exact absurd same gone

/-- In the states in which a receiver whose last reference may be given back has nothing but itself
at its handle, and only in those, nothing that is done for a receiver takes out another item. -/
theorem takesOnlyItself_iff (p : Program V) : p.TakesOnlyItself ↔ p.Undisplaced := by
  constructor
  · intro only id r found last registry gives item lives
    -- Whoever gives the last reference back takes out what lives there, which then is the receiver.
    have gone : ∀ {q : Program V}, ActsFor id p q →
        ((q.world.registries registry).get? r.handle =
          if r.count = 1 ∧ registry = registry ∧ r.handle = r.handle then none
          else (p.world.registries registry).get? r.handle) → item = .receiver id := by
      intro q acts after
      refine only id q acts registry r.handle item ⟨lives, ?_⟩
      rw [after, if_pos ⟨last, rfl, rfl⟩]
      exact nofun
    cases gives with
    | release owned => exact gone (.release owned) (get?_release found _ _)
    | lookup somewhere entered reversible =>
      obtain ⟨ends, removed, settled⟩ := exists_lookup found last somewhere entered reversible
      obtain ⟨same, stored, _, after⟩ := get?_lookup settled
      rw [found] at stored
      obtain rfl := Option.some.inj stored
      exact gone (.lookup settled) (after _ _)
  · intro undisplaced id q acts registry handle item removes
    obtain own | ⟨⟨r, found, last, rfl, gives⟩, _⟩ := acts.removes_cases removes
    · exact own
    · exact undisplaced id r found last registry gives item removes.1

/-- A receiver is retained, a value is put in at its handle, and its release takes that value
out. -/
theorem not_takesOnlyItself_of_displaced :
    let p := ((start.create 5 ⟨16⟩ ⟨false, false⟩ globalRegistry false).retain 0).direct
      (.insert globalRegistry ⟨16⟩ (.plain 7))
    ReachableWith (fun _ _ => True) p ∧ ActsFor 0 p (p.release 0) ∧
      Removes p (p.release 0) globalRegistry ⟨16⟩ (.plain 7) ∧ ¬p.TakesOnlyItself := by
  intro p
  have created : ReachableWith (fun _ _ => True)
      ((start : Program Nat).create 5 ⟨16⟩ ⟨false, false⟩ globalRegistry false) :=
    .step .start (.create 5 ⟨false, false⟩ globalRegistry false rfl (by simp [start, World.empty]))
  have retained := created.step (.retain (show 0 < Program.owned _ 0 from by decide))
  have displaced : ReachableWith (fun _ _ => True) p :=
    retained.direct (fun _ entering => by contradiction) trivial
  have acts : ActsFor 0 p (p.release 0) := .release (by decide)
  have removes : Removes p (p.release 0) globalRegistry ⟨16⟩ (.plain 7) := by
    refine ⟨rfl, ?_⟩
    decide
  refine ⟨displaced, acts, removes, fun only => ?_⟩
  have own := only 0 _ acts _ _ _ removes
  contradiction

end Program

end Bindery.Lifetime
