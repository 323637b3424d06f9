import Bindery.Lifetime.World

/-! # Rooted receivers

A registry has an entry for a receiver exactly while native code holds it. Main statements: this,
and that no block is freed before its receiver is released, survives every change of a receiver
that leaves its entry alone (`Rooted.set`), its entry with the first reference (`Rooted.enter`), the
loss of the entry with the last one (`Rooted.leave`) and the creation of a receiver at an address
that is free (`Rooted.create`).
-/

namespace Bindery.Lifetime

variable {V : Type}

namespace Registry

theorem get?_remove (registry : Registry V) (handle other : Handle) :
    (registry.remove handle).get? other = if other = handle then none else registry.get? other := by
  simp only [get?, remove]
  induction registry.entries with
  | nil => simp
  | cons entry rest ih =>
    obtain ⟨known, item⟩ := entry
    by_cases here : known = handle
    · subst here
      by_cases wanted : other = known
      · subst wanted
        simpa using ih
      · have differs : (other == known) = false := by simpa using wanted
        simpa [wanted, differs, List.lookup_cons] using ih
    · by_cases wanted : other = known
      · subst wanted
        simp [here]
      · have differs : (other == known) = false := by simpa using wanted
        simpa [here, differs, List.lookup_cons] using ih

theorem get?_insert (registry : Registry V) (handle other : Handle) (item : Item V) :
    (registry.insert handle item).get? other =
      if other = handle then some item else registry.get? other := by
  have removed := get?_remove registry handle other
  simp only [get?, insert, List.lookup_cons] at removed ⊢
  by_cases wanted : other = handle
  · simp [wanted]
  · have differs : (other == handle) = false := by simpa using wanted
    simp only [differs, removed, wanted, if_false]

end Registry

/-- A receiver may change so that native code holds it when it is active, and that its block is
freed only when it is released. -/
structure Receiver.Evolves (r next : Receiver V) : Prop where
  handle : next.handle = r.handle
  registry : next.registry = r.registry
  active_iff : 1 ≤ next.count ↔ next.phase = .active
  live : next.blockLive = true → r.blockLive = true
  freed : next.blockLive = false → next.phase = .released

/-- A receiver with a block may become or stay active. -/
theorem Receiver.Evolves.active {r next : Receiver V} (handle : next.handle = r.handle)
    (registry : next.registry = r.registry) (held : 1 ≤ next.count) (phase : next.phase = .active)
    (block : next.blockLive = true) (live : r.blockLive = true) : r.Evolves next where
  handle
  registry
  active_iff := iff_of_true held phase
  live _ := live
  freed freed := by
    rw [block] at freed
    contradiction

/-- A receiver may become or stay released, and lose its block then. -/
theorem Receiver.Evolves.released {r next : Receiver V} (handle : next.handle = r.handle)
    (registry : next.registry = r.registry) (none : next.count = 0) (phase : next.phase = .released)
    (live : next.blockLive = true → r.blockLive = true) : r.Evolves next where
  handle
  registry
  active_iff := iff_of_false (by omega) (by rw [phase]; decide)
  live
  freed _ := phase

namespace World

variable {world : World V} {id : ReceiverId} {r next : Receiver V}

theorem receivers_setReceiver (found : world.receivers[id]? = some r) (next : Receiver V)
    (other : ReceiverId) : (world.setReceiver id next).receivers[other]? =
      if other = id then some next else world.receivers[other]? := by
  obtain ⟨bound, _⟩ := List.getElem?_eq_some_iff.mp found
  simp only [setReceiver, List.getElem?_set, bound, if_true, eq_comm]

theorem receivers_setReceiver_self (found : world.receivers[id]? = some r) (next : Receiver V) :
    (world.setReceiver id next).receivers[id]? = some next := by
  rw [receivers_setReceiver found, if_pos rfl]

@[simp] theorem registries_setReceiver (world : World V) (id : ReceiverId) (next : Receiver V) :
    (world.setReceiver id next).registries = world.registries := rfl

@[simp] theorem receivers_setRegistry (world : World V) (id : RegistryId) (registry : Registry V) :
    (world.setRegistry id registry).receivers = world.receivers := rfl

theorem registries_setRegistry (world : World V) (id other : RegistryId) (registry : Registry V) :
    (world.setRegistry id registry).registries other =
      if other = id then registry else world.registries other := rfl

/-- Native code holds the active receivers, a block that has been freed was that of a released one,
and no two blocks that have not been freed are at one address. -/
structure Coherent (world : World V) : Prop where
  active_iff : ∀ (id : ReceiverId) (r : Receiver V), world.receivers[id]? = some r →
    (1 ≤ r.count ↔ r.phase = .active)
  freed : ∀ (id : ReceiverId) (r : Receiver V), world.receivers[id]? = some r →
    r.blockLive = false → r.phase = .released
  apart : ∀ (i j : ReceiverId) (a b : Receiver V), world.receivers[i]? = some a →
    world.receivers[j]? = some b → a.blockLive = true → b.blockLive = true →
    a.handle = b.handle → i = j

/-- An item refers to a receiver of a given registry and at a given handle that native code
holds. -/
def Roots (world : World V) (registry : RegistryId) (handle : Handle) (item : Item V) : Prop :=
  ∃ (id : ReceiverId) (r : Receiver V), item = .receiver id ∧ world.receivers[id]? = some r ∧
    r.registry = registry ∧ r.handle = handle ∧ 1 ≤ r.count

/-- The registries have entries for the receivers that native code holds, and for nothing else. -/
structure Rooted (world : World V) : Prop extends Coherent world where
  entry_iff : ∀ registry handle item,
    (world.registries registry).get? handle = some item ↔ world.Roots registry handle item

theorem rooted_empty : (World.empty : World V).Rooted where
  active_iff := by simp [World.empty]
  freed := by simp [World.empty]
  apart := by simp [World.empty]
  entry_iff := by simp [World.empty, Registry.empty, Registry.get?, Roots]

/-- Only receivers and registries count. -/
theorem Rooted.of_eq {later : World V} (rooted : world.Rooted)
    (receivers : later.receivers = world.receivers)
    (registries : later.registries = world.registries) : later.Rooted where
  active_iff := by rw [receivers]; exact rooted.active_iff
  freed := by rw [receivers]; exact rooted.freed
  apart := by rw [receivers]; exact rooted.apart
  entry_iff := by
    simp only [Roots, receivers, registries]
    exact rooted.entry_iff

theorem Coherent.set (coherent : world.Coherent) (found : world.receivers[id]? = some r)
    (evolves : r.Evolves next) : (world.setReceiver id next).Coherent where
  active_iff := by
    intro other a stored
    rw [receivers_setReceiver found] at stored
    split at stored
    · obtain rfl := Option.some.inj stored
      exact evolves.active_iff
    · exact coherent.active_iff other a stored
  freed := by
    intro other a stored
    rw [receivers_setReceiver found] at stored
    split at stored
    · obtain rfl := Option.some.inj stored
      exact evolves.freed
    · exact coherent.freed other a stored
  apart := by
    have before : ∀ (k : ReceiverId) (c : Receiver V),
        (world.setReceiver id next).receivers[k]? = some c → c.blockLive = true →
        ∃ d : Receiver V, world.receivers[k]? = some d ∧ d.blockLive = true ∧
          d.handle = c.handle := by
      intro k c stored live
      rw [receivers_setReceiver found] at stored
      split at stored
      · next here =>
        obtain rfl := Option.some.inj stored
        exact ⟨r, here ▸ found, evolves.live live, evolves.handle.symm⟩
      · exact ⟨c, stored, live, rfl⟩
    intro i j a b first second liveA liveB address
    obtain ⟨c, storedC, liveC, sameC⟩ := before i a first liveA
    obtain ⟨d, storedD, liveD, sameD⟩ := before j b second liveB
    exact coherent.apart i j c d storedC storedD liveC liveD
      (sameC.trans (address.trans sameD.symm))

theorem Coherent.setRegistry (coherent : world.Coherent) (id : RegistryId)
    (registry : Registry V) : (world.setRegistry id registry).Coherent :=
  ⟨coherent.active_iff, coherent.freed, coherent.apart⟩

/-- The registry of a receiver that native code holds has it at its handle. -/
theorem Rooted.entry (rooted : world.Rooted) (found : world.receivers[id]? = some r)
    (held : 1 ≤ r.count) : (world.registries r.registry).get? r.handle = some (.receiver id) :=
  (rooted.entry_iff _ _ _).mpr ⟨id, r, rfl, found, rfl, rfl, held⟩

/-- What native code holds has a block. -/
theorem Coherent.live (coherent : world.Coherent) (found : world.receivers[id]? = some r)
    (held : 1 ≤ r.count) : r.blockLive = true := by
  cases block : r.blockLive with
  | true => rfl
  | false =>
    have active := (coherent.active_iff id r found).mp held
    rw [coherent.freed id r found block] at active
    contradiction

/-- What is rooted at the handle of a receiver whose block is not freed is this receiver. -/
theorem Coherent.eq_of_roots (coherent : world.Coherent) (found : world.receivers[id]? = some r)
    (live : r.blockLive = true) {registry : RegistryId} {item : Item V}
    (roots : world.Roots registry r.handle item) : item = .receiver id := by
  obtain ⟨other, a, rfl, stored, _, address, held⟩ := roots
  rw [coherent.apart other id a r stored found (coherent.live stored held) live address]

theorem roots_receiver_iff (found : world.receivers[id]? = some r) {registry : RegistryId}
    {handle : Handle} : world.Roots registry handle (.receiver id) ↔
      r.registry = registry ∧ r.handle = handle ∧ 1 ≤ r.count := by
  constructor
  · rintro ⟨other, a, equal, stored, rest⟩
    obtain rfl := Item.receiver.inj equal
    rw [found] at stored
    obtain rfl := Option.some.inj stored
    exact rest
  · intro rest
    exact ⟨id, r, rfl, found, rest⟩

/-- What is rooted after a receiver has changed: other receivers as before, and it if it is held. -/
theorem roots_setReceiver_iff (found : world.receivers[id]? = some r) (evolves : r.Evolves next)
    {registry : RegistryId} {handle : Handle} {item : Item V} :
    (world.setReceiver id next).Roots registry handle item ↔
      item = .receiver id ∧ r.registry = registry ∧ r.handle = handle ∧ 1 ≤ next.count ∨
        item ≠ .receiver id ∧ world.Roots registry handle item := by
  have changed := receivers_setReceiver_self found next
  by_cases own : item = .receiver id
  · subst own
    rw [roots_receiver_iff changed, evolves.registry, evolves.handle]
    simp
  · have others : (world.setReceiver id next).Roots registry handle item ↔
        world.Roots registry handle item := by
      refine exists_congr fun other => exists_congr fun a => and_congr_right fun equal => ?_
      have apart : other ≠ id := by
        rintro rfl
        exact own equal
      rw [receivers_setReceiver found, if_neg apart]
    simp [own, others]

/-- A change of a receiver does not bear on what is rooted elsewhere. -/
theorem roots_setReceiver_of_away (found : world.receivers[id]? = some r)
    (evolves : r.Evolves next) {registry : RegistryId} {handle : Handle} {item : Item V}
    (away : ¬(registry = r.registry ∧ handle = r.handle)) :
    (world.setReceiver id next).Roots registry handle item ↔ world.Roots registry handle item := by
  rw [roots_setReceiver_iff found evolves]
  constructor
  · rintro (⟨_, same, address, _⟩ | ⟨_, roots⟩)
    · exact absurd ⟨same.symm, address.symm⟩ away
    · exact roots
  · intro roots
    refine .inr ⟨?_, roots⟩
    rintro rfl
    obtain ⟨same, address, _⟩ := (roots_receiver_iff found).mp roots
    exact away ⟨same.symm, address.symm⟩

/-- A receiver may change while its entry stays, or stays away. -/
theorem Rooted.set (rooted : world.Rooted) (found : world.receivers[id]? = some r)
    (evolves : r.Evolves next) (held_iff : 1 ≤ next.count ↔ 1 ≤ r.count) :
    (world.setReceiver id next).Rooted where
  toCoherent := rooted.toCoherent.set found evolves
  entry_iff := by
    intro registry handle item
    rw [registries_setReceiver, rooted.entry_iff, roots_setReceiver_iff found evolves]
    by_cases own : item = .receiver id
    · subst own
      rw [roots_receiver_iff found, held_iff]
      simp
    · simp [own]

/-- A receiver may change together with its registry, if the registry has at the handle of the
receiver what is rooted there and keeps what it has elsewhere. -/
theorem Rooted.setRegistry (rooted : world.Rooted) (found : world.receivers[id]? = some r)
    (evolves : r.Evolves next) {changed : Registry V}
    (here : ∀ item, changed.get? r.handle = some item ↔
      (world.setReceiver id next).Roots r.registry r.handle item)
    (elsewhere : ∀ handle, handle ≠ r.handle →
      changed.get? handle = (world.registries r.registry).get? handle) :
    ((world.setReceiver id next).setRegistry r.registry changed).Rooted where
  toCoherent := (rooted.toCoherent.set found evolves).setRegistry _ _
  entry_iff := by
    intro registry handle item
    change _ ↔ (world.setReceiver id next).Roots registry handle item
    rw [registries_setRegistry, registries_setReceiver]
    by_cases own : registry = r.registry ∧ handle = r.handle
    · obtain ⟨rfl, rfl⟩ := own
      rw [if_pos rfl]
      exact here item
    · rw [roots_setReceiver_of_away found evolves own, ← rooted.entry_iff]
      split
      · next same =>
        subst same
        rw [elsewhere handle fun address => own ⟨rfl, address⟩]
      · rfl

/-- A receiver is entered with the first reference of native code. -/
theorem Rooted.enter (rooted : world.Rooted) (found : world.receivers[id]? = some r)
    (evolves : r.Evolves next) (live : r.blockLive = true) (held : 1 ≤ next.count) :
    ((world.setReceiver id next).setRegistry r.registry
      ((world.registries r.registry).insert r.handle (.receiver id))).Rooted := by
  refine rooted.setRegistry found evolves ?_ ?_
  · intro item
    rw [Registry.get?_insert, if_pos rfl, Option.some.injEq, roots_setReceiver_iff found evolves]
    constructor
    · rintro rfl
      exact .inl ⟨rfl, rfl, rfl, held⟩
    · rintro (⟨rfl, _⟩ | ⟨apart, roots⟩)
      · rfl
      · exact absurd (rooted.eq_of_roots found live roots) apart
  · intro handle away
    rw [Registry.get?_insert, if_neg away]

/-- The entry of a receiver goes with the last reference of native code. -/
theorem Rooted.leave (rooted : world.Rooted) (found : world.receivers[id]? = some r)
    (evolves : r.Evolves next) (held : 1 ≤ r.count) (none : next.count = 0) :
    ((world.setReceiver id next).setRegistry r.registry
      ((world.registries r.registry).remove r.handle)).Rooted := by
  refine rooted.setRegistry found evolves ?_ ?_
  · intro item
    rw [Registry.get?_remove, if_pos rfl, roots_setReceiver_iff found evolves]
    refine iff_of_false (by simp) ?_
    rintro (⟨_, _, _, last⟩ | ⟨apart, roots⟩)
    · omega
    · exact apart (rooted.eq_of_roots found (rooted.live found held) roots)
  · intro handle away
    rw [Registry.get?_remove, if_neg away]

theorem receivers_create (world : World V) (value : V) (handle : Handle) (options : Options)
    (registry : RegistryId) (hooked : Bool) (other : ReceiverId) :
    (world.create value handle options registry hooked).receivers[other]? =
      if other = world.receivers.length then some (.fresh value handle options registry hooked)
      else world.receivers[other]? := by
  rcases Nat.lt_trichotomy other world.receivers.length with old | rfl | beyond
  · rw [create, List.getElem?_append_left old, if_neg (Nat.ne_of_lt old)]
  · rw [create, List.getElem?_concat_length, if_pos rfl]
  · rw [create, if_neg (Nat.ne_of_gt beyond), List.getElem?_eq_none (Nat.le_of_lt beyond),
      List.getElem?_eq_none]
    simp only [List.length_append, List.length_singleton]
    exact beyond

/-- A receiver comes with a block at an address that no other block has. -/
theorem Coherent.create (coherent : world.Coherent) (value : V) {handle : Handle}
    (options : Options) (registry : RegistryId) (hooked : Bool)
    (free : ∀ r ∈ world.receivers, r.blockLive = true → r.handle ≠ handle) :
    (world.create value handle options registry hooked).Coherent where
  active_iff := by
    intro other a stored
    rw [receivers_create] at stored
    split at stored
    · obtain rfl := Option.some.inj stored
      simp [Receiver.fresh]
    · exact coherent.active_iff other a stored
  freed := by
    intro other a stored block
    rw [receivers_create] at stored
    split at stored
    · obtain rfl := Option.some.inj stored
      simp [Receiver.fresh] at block
    · exact coherent.freed other a stored block
  apart := by
    intro i j a b first second liveA liveB address
    rw [receivers_create] at first second
    split at first <;> split at second
    · next hereA hereB => rw [hereA, hereB]
    · obtain rfl := Option.some.inj first
      exact absurd address.symm (free b (List.mem_of_getElem? second) liveB)
    · obtain rfl := Option.some.inj second
      exact absurd address (free a (List.mem_of_getElem? first) liveA)
    · exact coherent.apart i j a b first second liveA liveB address

/-- Native code does not hold it yet, and no registry has it. -/
theorem Rooted.create (rooted : world.Rooted) (value : V) {handle : Handle} (options : Options)
    (registry : RegistryId) (hooked : Bool)
    (free : ∀ r ∈ world.receivers, r.blockLive = true → r.handle ≠ handle) :
    (world.create value handle options registry hooked).Rooted where
  toCoherent := rooted.toCoherent.create value options registry hooked free
  entry_iff := by
    intro within place item
    change (world.registries within).get? place = some item ↔ _
    rw [rooted.entry_iff]
    refine exists_congr fun other => exists_congr fun a => and_congr_right fun _ => ?_
    rw [receivers_create]
    split
    · next new =>
      rw [List.getElem?_eq_none (Nat.le_of_eq new.symm)]
      constructor
      · rintro ⟨stored, _⟩
        contradiction
      · rintro ⟨stored, _, _, held⟩
        obtain rfl := Option.some.inj stored
        simp [Receiver.fresh] at held
    · rfl

end World

end Bindery.Lifetime
