import Bindery.Lifetime.Interleaving
import Bindery.Proofs.Lifetime.Rooted

/-! # What sections do

Where receivers are rooted, each section comes to one change of one receiver, with its entry or
without it: a first reference displaces nothing (`retainSection_eq`), a last one takes the own entry
of the receiver along (`releaseSection_eq`), and so does a disposal that comes before it
(`unroot_eq`). A lookup is a reference more and a release (`lookupSection_cases`). What a job does
with its section is one change of one receiver too (`Job.perform_cases`).
-/

namespace Bindery.Lifetime

variable {V : Type}

namespace World

variable {world : World V} {id : ReceiverId} {r next : Receiver V}

theorem setReceiver_setReceiver (world : World V) (id : ReceiverId) (next last : Receiver V) :
    (world.setReceiver id next).setReceiver id last = world.setReceiver id last := by
  simp only [setReceiver, List.set_set]

theorem setReceiver_self (found : world.receivers[id]? = some r) :
    world.setReceiver id r = world := by
  obtain ⟨bound, rfl⟩ := List.getElem?_eq_some_iff.mp found
  simp only [setReceiver, List.set_getElem_self]

theorem hold_eq (found : world.receivers[id]? = some r) :
    world.hold id = world.setReceiver id { r with holders := r.holders + 1 } := by
  simp only [hold, found]

theorem unhold_eq (found : world.receivers[id]? = some r) :
    world.unhold id =
      (r.holders == 1, world.setReceiver id { r with holders := r.holders - 1 }) := by
  simp only [unhold, found]

theorem takeGuard_eq (found : world.receivers[id]? = some r) :
    world.takeGuard id = (!r.guard.taken, world.setReceiver id { r with guard := ⟨true⟩ }) := by
  simp only [takeGuard, found, Guard.take]

theorem freeBlock_eq (found : world.receivers[id]? = some r) :
    world.freeBlock id = world.setReceiver id { r with blockLive := false } := by
  simp only [freeBlock, found]

theorem noteRelease_eq (found : world.receivers[id]? = some r) :
    world.noteRelease id =
      (r.options.autoDispose, world.note .trace s!"{r.handle.display} released") := by
  simp only [noteRelease, found]

theorem registryOf_eq (found : world.receivers[id]? = some r) :
    world.registryOf id = r.registry := by
  simp only [registryOf, found, Option.map_some, Option.getD_some]

/-- A receiver that is not held has no entry at its handle. -/
theorem Rooted.entry_ne (rooted : world.Rooted) (found : world.receivers[id]? = some r)
    (none : r.count = 0) (registry : RegistryId) (handle : Handle) :
    (world.registries registry).get? handle ≠ some (.receiver id) := by
  intro entered
  have held := ((roots_receiver_iff found).mp ((rooted.entry_iff _ _ _).mp entered)).2.2
  omega

/-- A receiver that is not released has its block. -/
theorem Coherent.live_of_ne (coherent : world.Coherent) (found : world.receivers[id]? = some r)
    (unreleased : r.phase ≠ .released) : r.blockLive = true := by
  cases block : r.blockLive with
  | true => rfl
  | false => exact absurd (coherent.freed id r found block) unreleased

/-- Native code does not hold a released receiver. -/
theorem Coherent.count_of_released (coherent : world.Coherent)
    (found : world.receivers[id]? = some r) (released : r.phase = .released) : r.count = 0 := by
  refine Nat.eq_zero_of_not_pos fun held => ?_
  have active := (coherent.active_iff id r found).mp held
  rw [released] at active
  contradiction

/-- Nothing is at the handle of a receiver that is neither held nor released. -/
theorem Rooted.vacant (rooted : world.Rooted) (found : world.receivers[id]? = some r)
    (none : r.count = 0) (unreleased : r.phase ≠ .released) (registry : RegistryId) :
    (world.registries registry).get? r.handle = Option.none := by
  rw [Option.eq_none_iff_forall_ne_some]
  intro item entered
  have live := rooted.live_of_ne found unreleased
  obtain rfl := rooted.eq_of_roots found live ((rooted.entry_iff _ _ _).mp entered)
  exact rooted.entry_ne found none _ _ entered

/-- Retaining a receiver that is not released enters it, if that is its first reference, in place of
what lived at its handle. -/
theorem retainSection_displacing (found : world.receivers[id]? = some r) :
    world.retainSection id =
      if r.phase = .released then (.error (.released r.handle), world)
      else if r.count = 0 then
        (.ok (1, (world.registries r.registry).get? r.handle),
          (world.setReceiver id
              { r with count := 1, phase := .active, holders := r.holders + 1 }).setRegistry
            r.registry ((world.registries r.registry).insert r.handle (.receiver id)))
      else
        (.ok (r.count + 1, none),
          world.setReceiver id { r with count := r.count + 1, phase := .active }) := by
  simp only [retainSection, found, Receiver.retained]
  by_cases gone : r.phase = .released
  · simp only [gone, if_true]
  simp only [gone, if_false, Nat.add_eq_right]
  by_cases first : r.count = 0
  · have changed := receivers_setReceiver_self found { r with count := 1, phase := .active }
    simp only [first, if_true, Nat.zero_add, insertItem, hold_eq changed, setReceiver_setReceiver,
      registries_setReceiver]
  · simp only [first, if_false]

/-- Where receivers are rooted, nothing is displaced. -/
theorem retainSection_eq (rooted : world.Rooted) (found : world.receivers[id]? = some r) :
    world.retainSection id =
      if r.phase = .released then (.error (.released r.handle), world)
      else if r.count = 0 then
        (.ok (1, none),
          (world.setReceiver id
              { r with count := 1, phase := .active, holders := r.holders + 1 }).setRegistry
            r.registry ((world.registries r.registry).insert r.handle (.receiver id)))
      else
        (.ok (r.count + 1, none),
          world.setReceiver id { r with count := r.count + 1, phase := .active }) := by
  rw [retainSection_displacing found]
  split
  · rfl
  · next unreleased =>
    split
    · next first => rw [rooted.vacant found first unreleased]
    · rfl

/-- Giving the last reference to a receiver back takes out what lives at its handle. -/
theorem releaseSection_removing (found : world.receivers[id]? = some r) (registry : RegistryId) :
    world.releaseSection registry id =
      match r.count with
      | 0 =>
        (.error (if r.phase = .released then .released r.handle else .unbalanced r.handle), world)
      | 1 =>
        (.ok (true, (world.registries registry).get? r.handle),
          (world.setReceiver id { r with count := 0, phase := .released }).setRegistry registry
            ((world.registries registry).remove r.handle))
      | n + 2 => (.ok (false, none), world.setReceiver id { r with count := n + 1 }) := by
  simp only [releaseSection, found, Receiver.givenBack]
  cases counted : r.count with
  | zero => rfl
  | succ n =>
    cases n with
    | zero => simp only [if_true, removeItem, registries_setReceiver]
    | succ n => rfl

/-- Where receivers are rooted, it takes the own entry of the receiver along. -/
theorem releaseSection_eq (rooted : world.Rooted) (found : world.receivers[id]? = some r) :
    world.releaseSection r.registry id =
      match r.count with
      | 0 =>
        (.error (if r.phase = .released then .released r.handle else .unbalanced r.handle), world)
      | 1 =>
        (.ok (true, some (.receiver id)),
          (world.setReceiver id { r with count := 0, phase := .released }).setRegistry r.registry
            ((world.registries r.registry).remove r.handle))
      | n + 2 => (.ok (false, none), world.setReceiver id { r with count := n + 1 }) := by
  rw [releaseSection_removing found]
  match counted : r.count with
  | 0 | n + 2 => rfl
  | 1 => rw [rooted.entry found (Nat.le_of_eq counted.symm)]

/-- A lookup that finds a receiver takes a reference to it and releases it, in the registry that is
asked. -/
theorem lookupSection_cases (world : World V) (registry : RegistryId) (expected : V → Bool)
    (handle : Handle) :
    (∃ fault, world.lookupSection registry expected handle = (.error fault, world)) ∨
      ∃ (id : ReceiverId) (r : Receiver V) (last : Bool) (removed : Option (Item V))
        (after : World V), world.receivers[id]? = some r ∧ handle.isNull = false ∧
          (world.registries registry).get? handle = some (.receiver id) ∧
          r.options.reversible = true ∧
          (world.hold id).releaseSection registry id = (.ok (last, removed), after) ∧
          world.lookupSection registry expected handle = (.ok (id, last, removed), after) := by
  simp only [lookupSection]
  cases somewhere : handle.isNull with
  | true => exact .inl ⟨_, rfl⟩
  | false =>
    simp only [Bool.false_eq_true, if_false]
    split
    · next id entered =>
      cases found : world.receivers[id]? with
      | none => exact .inl ⟨_, rfl⟩
      | some r =>
        simp only
        split
        · next fit =>
          obtain ⟨_, reversible⟩ := Bool.and_eq_true_iff.mp fit
          split
          · exact .inl ⟨_, rfl⟩
          · next last removed after released =>
            exact .inr ⟨id, r, last, removed, after, found, trivial, entered, reversible,
              released, rfl⟩
        · exact .inl ⟨_, rfl⟩
    · exact .inl ⟨_, rfl⟩

/-- Where receivers are rooted, that is its own registry. -/
theorem Rooted.home (rooted : world.Rooted) (found : world.receivers[id]? = some r)
    {registry : RegistryId} {handle : Handle}
    (entered : (world.registries registry).get? handle = some (.receiver id)) :
    r.registry = registry :=
  ((roots_receiver_iff found).mp ((rooted.entry_iff _ _ _).mp entered)).1

/-- Releasing a receiver that is being disposed takes its entry along, if it has one. -/
theorem unroot_eq (rooted : world.Rooted) (found : world.receivers[id]? = some r) :
    world.unroot id =
      if r.count = 0 then world.setReceiver id { r with phase := .released }
      else
        let noted := world.note .warn
          s!"{r.handle.display} disposed with {r.count} native reference(s) outstanding"
        (noted.setReceiver id
            { r with phase := .released, count := 0, holders := r.holders - 1 }).setRegistry
          r.registry ((world.registries r.registry).remove r.handle) := by
  simp only [unroot, found]
  by_cases none : r.count = 0
  · simp only [none, if_true]
    split
    · next entry entered =>
      split
      · next same =>
        rw [same] at entered
        exact absurd entered (rooted.entry_ne found none _ _)
      · rfl
    · rfl
  · have entered := rooted.entry found (Nat.pos_of_ne_zero none)
    simp only [entered, if_true, none, if_false]
    rfl

/-- A figure of a receiver, or zero where there is no receiver. -/
def tally (world : World V) (figure : Receiver V → Nat) (id : ReceiverId) : Nat :=
  (world.receivers[id]?.map figure).getD 0

/-- How often the hook of a receiver was called. -/
def hooks (world : World V) (id : ReceiverId) : Nat :=
  world.events.countP fun
    | .hooked other _ => other == id
    | .logged _ => false

variable {figure : Receiver V → Nat}

theorem tally_eq (found : world.receivers[id]? = some r) : world.tally figure id = figure r := by
  simp only [tally, found, Option.map_some, Option.getD_some]

theorem exists_of_tally_pos {f : Receiver V → Nat} (some : 0 < world.tally f id) :
    ∃ r, world.receivers[id]? = .some r := by
  refine Option.isSome_iff_exists.mp ?_
  cases found : world.receivers[id]? with
  | none =>
    rw [tally, found] at some
    contradiction
  | some r => rfl

theorem tally_setReceiver (found : world.receivers[id]? = some r) (other : ReceiverId) :
    (world.setReceiver id next).tally figure other =
      if other = id then figure next else world.tally figure other := by
  simp only [tally, receivers_setReceiver found]
  split <;> rfl

theorem tally_create (value : V) (handle : Handle) (options : Options) (registry : RegistryId)
    (hooked : Bool) (other : ReceiverId) :
    (world.create value handle options registry hooked).tally figure other =
      if other = world.receivers.length then
        figure (.fresh value handle options registry hooked)
      else world.tally figure other := by
  simp only [tally, receivers_create]
  split <;> rfl

theorem tally_of_length_le (beyond : world.receivers.length ≤ id) : world.tally figure id = 0 := by
  simp only [tally, List.getElem?_eq_none beyond, Option.map_none, Option.getD_none]

theorem tally_congr {later : World V} (same : later.receivers = world.receivers) :
    later.tally figure = world.tally figure := by
  funext id
  simp only [tally, same]

theorem hooks_note (world : World V) (level : Level) (text : String) :
    (world.note level text).hooks = world.hooks := by
  funext id
  simp [note, addEvent, hooks, List.countP_append]

/-- An announcement calls the hook of its receiver at most once, and no other one. -/
theorem hooks_announce_le (world : World V) (id other : ReceiverId) :
    (world.announce id).hooks other ≤ world.hooks other + if id = other then 1 else 0 := by
  simp only [announce]
  cases world.receivers[id]? with
  | none => exact Nat.le_add_right _ _
  | some r =>
    simp only [hooks_note]
    split
    · simp only [hooks, addEvent, List.countP_append, List.countP_singleton, beq_iff_eq]
      exact Nat.le_refl _
    · exact Nat.le_add_right _ _

theorem receivers_announce (world : World V) (id : ReceiverId) :
    (world.announce id).receivers = world.receivers := by
  simp only [announce]
  split
  · rfl
  · split <;> rfl

theorem registries_announce (world : World V) (id : ReceiverId) :
    (world.announce id).registries = world.registries := by
  simp only [announce]
  split
  · rfl
  · split <;> rfl

/-- A receiver that does not change in what counts evolves. -/
theorem Coherent.evolves (coherent : world.Coherent) (found : world.receivers[id]? = some r)
    (handle : next.handle = r.handle) (registry : next.registry = r.registry)
    (count : next.count = r.count) (phase : next.phase = r.phase)
    (block : next.blockLive = r.blockLive) : r.Evolves next where
  handle
  registry
  active_iff := by rw [count, phase, coherent.active_iff id r found]
  live live := by rwa [block] at live
  freed := by rw [block, phase]; exact coherent.freed id r found

end World

/-! ## The sections of jobs -/

namespace Job

variable {world : World V} {job more : Job} {left : List Job} {id : ReceiverId} {r s : Receiver V}

/-- What the section of a job makes of the receiver that the job is about, and what it leaves to
do. -/
inductive Makes (id : ReceiverId) (r : Receiver V) : Job → Receiver V → List Job → Prop where
  | letGo : Makes id r (.letGo id) { r with holders := r.holders - 1 }
      (if r.holders == 1 then [.dispose id] else [])
  | finishRelease : Makes id r (.finishRelease id) r
      (if r.options.autoDispose then [.dispose id] else [])
  | dispose : Makes id r (.dispose id) { r with guard := ⟨true⟩ }
      (if r.guard.taken then [] else [.unroot id, .freeBlock id, .announce id])
  | unrootFree (none : r.count = 0) : Makes id r (.unroot id) { r with phase := .released } []
  | unrootHeld : Makes id r (.unroot id)
      { r with phase := .released, count := 0, holders := r.holders - 1 } []
  | freeBlock : Makes id r (.freeBlock id) { r with blockLive := false } []
  | announce : Makes id r (.announce id) r []

/-- Where receivers are rooted, that is all that the section of a job does to receivers and leaves
to do; where there is no receiver, it does nothing. -/
theorem perform_cases (rooted : world.Rooted) (job : Job) :
    ((job.perform world).1.receivers = world.receivers ∧ (job.perform world).2 = []) ∨
      ∃ (id : ReceiverId) (r s : Receiver V), world.receivers[id]? = some r ∧
        (job.perform world).1.receivers = (world.setReceiver id s).receivers ∧
        job.Makes id r s (job.perform world).2 := by
  cases job with
  | letGo id =>
    cases found : world.receivers[id]? with
    | none => exact .inl (by simp only [perform, World.unhold, found, and_self])
    | some r =>
      refine .inr ⟨id, r, { r with holders := r.holders - 1 }, found, ?_⟩
      have makes : Makes id r (.letGo id) _ _ := .letGo
      simp only [perform, World.unhold_eq found]
      cases last : r.holders == 1 <;> rw [last] at makes <;> exact ⟨rfl, makes⟩
  | finishRelease id =>
    cases found : world.receivers[id]? with
    | none => exact .inl (by simp only [perform, World.noteRelease, found, and_self])
    | some r =>
      refine .inr ⟨id, r, r, found, ?_⟩
      have makes : Makes id r (.finishRelease id) _ _ := .finishRelease
      have same := congrArg World.receivers (World.setReceiver_self found).symm
      simp only [perform, World.noteRelease_eq found]
      cases auto : r.options.autoDispose <;> rw [auto] at makes <;> exact ⟨same, makes⟩
  | dispose id =>
    cases found : world.receivers[id]? with
    | none => exact .inl (by simp only [perform, World.takeGuard, found, and_self])
    | some r =>
      refine .inr ⟨id, r, { r with guard := ⟨true⟩ }, found, ?_⟩
      have makes : Makes id r (.dispose id) _ _ := .dispose
      simp only [perform, World.takeGuard_eq found]
      cases taken : r.guard.taken <;> rw [taken] at makes <;> exact ⟨rfl, makes⟩
  | unroot id =>
    cases found : world.receivers[id]? with
    | none => exact .inl (by simp only [perform, World.unroot, found, and_self])
    | some r =>
      simp only [perform, World.unroot_eq rooted found]
      by_cases none : r.count = 0
      · rw [if_pos none]
        exact .inr ⟨id, r, _, found, rfl, .unrootFree none⟩
      · rw [if_neg none]
        exact .inr ⟨id, r, _, found, rfl, .unrootHeld⟩
  | freeBlock id =>
    cases found : world.receivers[id]? with
    | none => exact .inl (by simp only [perform, World.freeBlock, found, and_self])
    | some r =>
      simp only [perform, World.freeBlock_eq found]
      exact .inr ⟨id, r, _, found, rfl, .freeBlock⟩
  | announce id =>
    have same := World.receivers_announce world id
    cases found : world.receivers[id]? with
    | none => exact .inl ⟨same, rfl⟩
    | some r =>
      refine .inr ⟨id, r, r, found, ?_, .announce⟩
      exact same.trans (congrArg World.receivers (World.setReceiver_self found).symm)

/-- No section of a job adds a reference. -/
theorem Makes.holders_le (makes : job.Makes id r s left) : s.holders ≤ r.holders := by
  cases makes with
  | letGo | unrootHeld => exact Nat.sub_le _ _
  | finishRelease | dispose | unrootFree _ | freeBlock | announce => exact Nat.le_refl _

/-- The section that takes a guard, and no other one, leaves the receiver to be released. -/
theorem Makes.isDisposed_iff (makes : job.Makes id r s left) :
    s.isDisposed = true ↔ r.isDisposed = true ∨ Job.unroot id ∈ left := by
  cases makes with
  | dispose =>
    simp only [Receiver.isDisposed]
    cases r.guard.taken <;> simp
  | letGo | finishRelease =>
    simp only [Receiver.isDisposed]
    split <;> simp
  | unrootFree _ | unrootHeld | freeBlock | announce => simp [Receiver.isDisposed]

/-- It leaves no other one to be released. -/
theorem Makes.eq_of_unroot_mem {own : ReceiverId} (makes : job.Makes id r s left)
    (member : Job.unroot own ∈ left) : own = id := by
  cases makes with
  | dispose =>
    split at member
    · cases member
    · simpa using member
  | letGo | finishRelease => split at member <;> simp at member
  | unrootFree _ | unrootHeld | freeBlock | announce => cases member

end Job

end Bindery.Lifetime
