import Bindery.Proofs.Lifetime.Rest

/-! # What a lookup trades

A lookup takes back the reference that native code passes with a handle, and gives managed code one
in its place. Main statement: `lookup_trades`, for every state at rest, every registry, every kind
of value and every handle: when a lookup succeeds, what it then has done to the receiver, and that
nothing at all has changed where it does not.
-/

namespace Bindery.Lifetime

variable {V : Type}

/-- The receiver after a lookup has found it. The reference that managed code gets with the last one
of native code is the one that the entry was. -/
def Receiver.traded (r : Receiver V) : Receiver V :=
  if r.count = 1 then
    { r with
      count := 0
      phase := .released
      guard := if r.options.autoDispose then ⟨true⟩ else r.guard
      blockLive := r.blockLive && !r.options.autoDispose }
  else { r with count := r.count - 1, holders := r.holders + 1 }

namespace World

variable {world : World V} {id : ReceiverId} {r : Receiver V}

/-- An announcement calls the hook of its receiver, if there is one. -/
theorem hooks_announce (found : world.receivers[id]? = some r) (other : ReceiverId) :
    (world.announce id).hooks other =
      world.hooks other + if id = other ∧ r.hooked = true then 1 else 0 := by
  simp only [announce, found, hooks_note]
  cases r.hooked with
  | false => simp
  | true => simp [hooks, addEvent, List.countP_append, List.countP_singleton]

/-- The disposal of a receiver that is not held and at whose handle nothing lives. -/
theorem dispose_vacant (found : world.receivers[id]? = some r) (untaken : r.isDisposed = false)
    (vacant : (world.registries r.registry).get? r.handle = none) :
    (world.dispose id).2.receivers =
        (world.setReceiver id
          { r with guard := ⟨true⟩, phase := .released, blockLive := false }).receivers ∧
      (world.dispose id).2.registries = world.registries ∧
      ∀ other, (world.dispose id).2.hooks other =
        world.hooks other + if id = other ∧ r.hooked = true then 1 else 0 := by
  have taken := receivers_setReceiver_self found { r with guard := ⟨true⟩ }
  have free : r.guard.taken = false := untaken
  have unrooted : (world.setReceiver id { r with guard := ⟨true⟩ }).unroot id =
      world.setReceiver id { r with guard := ⟨true⟩, phase := .released } := by
    simp only [unroot, taken, registries_setReceiver, vacant, setReceiver_setReceiver]
  have released := receivers_setReceiver_self found { r with guard := ⟨true⟩, phase := .released }
  have freed := receivers_setReceiver_self found
    { r with guard := ⟨true⟩, phase := .released, blockLive := false }
  have disposed : (world.dispose id).2 =
      (world.setReceiver id
        { r with guard := ⟨true⟩, phase := .released, blockLive := false }).announce id := by
    simp only [dispose, takeGuard_eq found, free, Bool.not_false, unrooted, freeBlock_eq released,
      setReceiver_setReceiver]
  rw [disposed]
  refine ⟨receivers_announce _ _, registries_announce _ _, fun other => ?_⟩
  rw [hooks_announce freed]
  rfl

/-- The end of the release of a receiver at whose handle nothing lives any more. -/
theorem finishRelease_vacant (found : world.receivers[id]? = some r)
    (untaken : r.isDisposed = false) (released : r.phase = .released)
    (vacant : (world.registries r.registry).get? r.handle = none) :
    (world.finishRelease id).receivers =
        (world.setReceiver id { r with
          guard := if r.options.autoDispose then ⟨true⟩ else r.guard
          blockLive := r.blockLive && !r.options.autoDispose }).receivers ∧
      (world.finishRelease id).registries = world.registries ∧
      ∀ other, (world.finishRelease id).hooks other =
        world.hooks other +
          if id = other ∧ r.options.autoDispose = true ∧ r.hooked = true then 1 else 0 := by
  have noted := noteRelease_eq found
  cases automatic : r.options.autoDispose with
  | false =>
    have ended : world.finishRelease id =
        world.note .trace s!"{r.handle.display} released" := by
      rw [finishRelease, noted, automatic]
    rw [ended]
    refine ⟨?_, rfl, fun other => ?_⟩
    · have same : { r with
          guard := if false then ⟨true⟩ else r.guard, blockLive := r.blockLive && !false } = r := by
        simp
      rw [same, setReceiver_self found]
      rfl
    · simp [hooks_note]
  | true =>
    have ended : world.finishRelease id =
        ((world.note .trace s!"{r.handle.display} released").dispose id).2 := by
      rw [finishRelease, noted, automatic]
    have kept : (world.note .trace s!"{r.handle.display} released").receivers[id]? = some r := found
    obtain ⟨receivers, registries, hooks⟩ := dispose_vacant kept untaken vacant
    rw [ended]
    refine ⟨?_, registries, fun other => ?_⟩
    · rw [receivers]
      simp [setReceiver, note, addEvent, released]
    · rw [hooks, hooks_note]
      simp

/-- A lookup of a receiver that native code holds, of the kind that is expected and reversible. -/
theorem lookupSection_eq (rooted : world.Rooted) (found : world.receivers[id]? = some r)
    {expected : V → Bool} {handle : Handle} {registry : RegistryId}
    (somewhere : handle.isNull = false)
    (entered : (world.registries registry).get? handle = some (.receiver id))
    (kind : expected r.value = true) (reversible : r.options.reversible = true) :
    world.lookupSection registry expected handle =
      if r.count = 1 then
        (.ok (id, true, some (.receiver id)),
          (world.setReceiver id { r with
            count := 0, phase := .released, holders := r.holders + 1 }).setRegistry registry
              ((world.registries registry).remove handle))
      else
        (.ok (id, false, none),
          world.setReceiver id { r with count := r.count - 1, holders := r.holders + 1 }) := by
  obtain ⟨rfl, rfl, held⟩ := (roots_receiver_iff found).mp ((rooted.entry_iff _ _ _).mp entered)
  have evolves : r.Evolves { r with holders := r.holders + 1 } :=
    rooted.evolves found rfl rfl rfl rfl rfl
  have holding := rooted.set found evolves Iff.rfl
  have stored := receivers_setReceiver_self found { r with holders := r.holders + 1 }
  have given := releaseSection_eq holding stored
  simp only [lookupSection, somewhere, entered, found, kind, reversible, Bool.and_self, if_true,
    Bool.false_eq_true, if_false, hold_eq found]
  rcases counted : r.count with _ | _ | n
  · omega
  · simp only [counted] at given
    simp only [given, setReceiver_setReceiver]
    rfl
  · simp only [counted] at given
    simp only [given, setReceiver_setReceiver]
    simp

/-- The whole lookup of such a receiver, to which something refers. With the last reference of
native code the entry goes, and its reference with it. -/
theorem lookup_eq_of_held (rooted : world.Rooted) (found : world.receivers[id]? = some r)
    (held : 1 ≤ r.count) (referred : 1 ≤ r.holders) {expected : V → Bool}
    (somewhere : r.handle.isNull = false) (kind : expected r.value = true)
    (reversible : r.options.reversible = true) :
    world.lookup r.registry expected r.handle =
      (.ok id,
        if r.count = 1 then
          ((world.setReceiver id { r with count := 0, phase := .released }).setRegistry r.registry
            ((world.registries r.registry).remove r.handle)).finishRelease id
        else world.setReceiver id { r with count := r.count - 1, holders := r.holders + 1 }) := by
  have settled :=
    lookupSection_eq rooted found somewhere (rooted.entry found held) kind reversible
  by_cases last : r.count = 1
  · rw [if_pos last] at settled
    -- Giving up the entry leaves the references that there were, for the lookup has added one.
    let left : Receiver V := { r with count := 0, phase := .released }
    let out := (world.setReceiver id { left with holders := r.holders + 1 }).setRegistry r.registry
      ((world.registries r.registry).remove r.handle)
    have given : out.receivers[id]? = some { left with holders := r.holders + 1 } :=
      receivers_setReceiver_self found _
    have another : (r.holders + 1 == 1) = false := beq_false_of_ne (by omega)
    have dropped : out.letGo id =
        (world.setReceiver id left).setRegistry r.registry
          ((world.registries r.registry).remove r.handle) := by
      simp only [letGo, unhold_eq given, another]
      exact congrArg (fun world => setRegistry world r.registry _)
        (setReceiver_setReceiver world id _ left)
    rw [lookup, settled, if_pos last, ← dropped]
    rfl
  · rw [if_neg last] at settled
    rw [lookup, settled, if_neg last]
    rfl

/-! ## What is refused -/

variable {next : World V} {fault : Fault}

theorem retainSection_of_error (refused : world.retainSection id = (.error fault, next)) :
    next = world := by
  simp only [retainSection] at refused
  split at refused
  · exact (Prod.mk.inj refused).2.symm
  split at refused
  · exact (Prod.mk.inj refused).2.symm
  · have answered := congrArg Prod.fst refused
    split at answered <;> contradiction

theorem releaseSection_of_error {registry : RegistryId}
    (refused : world.releaseSection registry id = (.error fault, next)) : next = world := by
  simp only [releaseSection] at refused
  split at refused
  · exact (Prod.mk.inj refused).2.symm
  split at refused
  · exact (Prod.mk.inj refused).2.symm
  · have answered := congrArg Prod.fst refused
    split at answered <;> contradiction

theorem retain_of_error (refused : (world.retain id).1 = .error fault) :
    (world.retain id).2 = world := by
  rw [retain] at refused ⊢
  rcases settled : world.retainSection id with ⟨own | ⟨count, displaced⟩, later⟩
  · exact retainSection_of_error settled
  · rw [settled] at refused
    contradiction

theorem toNative_of_error (refused : (world.toNative id).1 = .error fault) :
    (world.toNative id).2 = world := by
  rw [toNative] at refused ⊢
  rcases settled : world.retain id with ⟨own | count, later⟩
  · have unchanged := retain_of_error (congrArg Prod.fst settled)
    rw [settled] at unchanged
    exact unchanged
  · rw [settled] at refused
    contradiction

theorem release_of_error (refused : (world.release id).1 = .error fault) :
    (world.release id).2 = world := by
  rw [release] at refused ⊢
  rcases settled : world.releaseSection (world.registryOf id) id with
    ⟨own | ⟨last, removed⟩, later⟩
  · exact releaseSection_of_error settled
  · rw [settled] at refused
    contradiction

end World

namespace Program

variable {p : Program V} {id : ReceiverId} {r : Receiver V}

/-- What a lookup that has found a receiver at a handle of a registry leaves of a world. -/
structure Traded (before : World V) (registry : RegistryId) (handle : Handle) (id : ReceiverId)
    (r : Receiver V) (after : World V) : Prop where
  /-- The receiver was whole, with its disposal not begun. -/
  held : 1 ≤ r.count
  active : r.phase = .active
  untaken : r.isDisposed = false
  live : r.blockLive = true
  /-- One reference of native code less, and no other receiver has changed. -/
  receivers : after.receivers = before.receivers.set id r.traded
  /-- The entry goes with the last reference of native code, and no other entry does. -/
  entry : ∀ other place, (after.registries other).get? place =
    if r.count = 1 ∧ other = registry ∧ place = handle then none
    else (before.registries other).get? place
  /-- The hook is called once more if the receiver is disposed, and no other hook is. -/
  hooks : ∀ other, after.hooks other = before.hooks other +
    if id = other ∧ r.count = 1 ∧ r.options.autoDispose = true ∧ r.hooked = true then 1 else 0

/-- A receiver of the expected kind lives at a handle of a registry, and can be looked up. -/
def Answers (world : World V) (registry : RegistryId) (expected : V → Bool) (handle : Handle)
    (id : ReceiverId) (r : Receiver V) : Prop :=
  handle.isNull = false ∧ (world.registries registry).get? handle = some (.receiver id) ∧
    world.receivers[id]? = some r ∧ expected r.value = true ∧ r.options.reversible = true

/-- A lookup that finds a receiver trades one reference. -/
theorem AtRest.lookup_of_answers (rest : p.AtRest) {registry : RegistryId} {expected : V → Bool}
    {handle : Handle} (answers : Answers p.world registry expected handle id r) :
    (p.world.lookup registry expected handle).1 = .ok id ∧
      Traded p.world registry handle id r (p.world.lookup registry expected handle).2 := by
  obtain ⟨somewhere, entered, found, kind, reversible⟩ := answers
  have rooted := rest.reachable.sound.rooted
  obtain ⟨rfl, rfl, held⟩ :=
    (World.roots_receiver_iff found).mp ((rooted.entry_iff _ _ _).mp entered)
  obtain ⟨active, untaken, live, referred⟩ := rest.whole found held
  rw [World.lookup_eq_of_held rooted found held referred somewhere kind reversible]
  by_cases last : r.count = 1
  · rw [if_pos last]
    let out := (p.world.setReceiver id { r with count := 0, phase := .released }).setRegistry
      r.registry ((p.world.registries r.registry).remove r.handle)
    have given : out.receivers[id]? = some { r with count := 0, phase := .released } :=
      World.receivers_setReceiver_self found _
    have vacant : (out.registries r.registry).get? r.handle = none := by
      rw [World.registries_setRegistry, if_pos rfl, Registry.get?_remove, if_pos rfl]
    obtain ⟨receivers, registries, hooks⟩ := World.finishRelease_vacant given untaken rfl vacant
    refine ⟨rfl, held, active, untaken, live, ?_, fun other place => ?_, fun other => ?_⟩
    · rw [receivers, Receiver.traded, if_pos last]
      exact congrArg World.receivers (World.setReceiver_setReceiver p.world id _ _)
    · rw [registries, World.registries_setRegistry]
      split
      · next same =>
        subst same
        rw [Registry.get?_remove]
        simp [last]
      · next apart => simp [apart]
    · rw [hooks]
      simp only [last, true_and]
      rfl
  · rw [if_neg last]
    refine ⟨rfl, held, active, untaken, live, ?_, fun other place => ?_, fun other => ?_⟩
    · rw [Receiver.traded, if_neg last]
      rfl
    · rw [if_neg fun both => last both.1]
      rfl
    · rw [if_neg fun all => last all.2.1]
      rfl

/-- Any other lookup is refused, and changes nothing. -/
theorem lookup_of_not_answers {world : World V} {registry : RegistryId} {expected : V → Bool}
    {handle : Handle} (none : ¬∃ id r, Answers world registry expected handle id r) :
    world.lookup registry expected handle =
      (.error (if handle.isNull then .nullHandle else .notFound handle), world) := by
  have settled : world.lookupSection registry expected handle =
      (.error (if handle.isNull then .nullHandle else .notFound handle), world) := by
    rw [World.lookupSection]
    cases somewhere : handle.isNull with
    | true => rfl
    | false =>
      simp only [Bool.false_eq_true, if_false]
      split
      · next id entered =>
        cases found : world.receivers[id]? with
        | none => rfl
        | some r =>
          have unfit : ¬(expected r.value && r.options.reversible) = true := by
            intro fit
            obtain ⟨kind, reversible⟩ := Bool.and_eq_true_iff.mp fit
            exact none ⟨id, r, somewhere, entered, found, kind, reversible⟩
          simp only [unfit]
          rfl
      · rfl
  rw [World.lookup, settled]

/-- What the operations that trade references of native code make of a state. -/
structure Trades (p : Program V) (registry : RegistryId) (expected : V → Bool) (handle : Handle) :
    Prop where
  /-- A lookup succeeds where a receiver answers to it, and only there. -/
  succeeds_iff : (∃ id, (p.world.lookup registry expected handle).1 = .ok id) ↔
    ∃ id r, Answers p.world registry expected handle id r
  /-- It answers that receiver, and trades one reference of it. -/
  succeeds : ∀ id, (p.world.lookup registry expected handle).1 = .ok id →
    ∃ r, Answers p.world registry expected handle id r ∧
      Traded p.world registry handle id r (p.world.lookup registry expected handle).2
  /-- A lookup that fails says why, and leaves everything as it was. -/
  fails : ∀ fault, (p.world.lookup registry expected handle).1 = .error fault →
    fault = (if handle.isNull then .nullHandle else .notFound handle) ∧
      (p.world.lookup registry expected handle).2 = p.world
  /-- So does everything else that fails. -/
  retain : ∀ id fault, (p.world.retain id).1 = .error fault → (p.world.retain id).2 = p.world
  toNative : ∀ id fault, (p.world.toNative id).1 = .error fault →
    (p.world.toNative id).2 = p.world
  release : ∀ id fault, (p.world.release id).1 = .error fault → (p.world.release id).2 = p.world
  /-- A lookup leaves a state of which all this can be said again. -/
  again : ∃ q, AtRest q ∧ q.world = (p.world.lookup registry expected handle).2

/-- In every state at rest, a lookup trades exactly one reference of the receiver that answers to
it, or nothing. -/
theorem lookup_trades (rest : p.AtRest) (registry : RegistryId) (expected : V → Bool)
    (handle : Handle) : p.Trades registry expected handle where
  succeeds_iff := by
    constructor
    · rintro ⟨id, found⟩
      by_cases some : ∃ id r, Answers p.world registry expected handle id r
      · exact some
      · rw [lookup_of_not_answers some] at found
        contradiction
    · rintro ⟨id, r, answers⟩
      exact ⟨id, (rest.lookup_of_answers answers).1⟩
  succeeds := by
    intro id found
    by_cases some : ∃ id r, Answers p.world registry expected handle id r
    · obtain ⟨own, r, answers⟩ := some
      obtain ⟨settled, traded⟩ := rest.lookup_of_answers answers
      rw [settled] at found
      obtain rfl := Except.ok.inj found
      exact ⟨r, answers, traded⟩
    · rw [lookup_of_not_answers some] at found
      contradiction
  fails := by
    intro fault failed
    by_cases some : ∃ id r, Answers p.world registry expected handle id r
    · obtain ⟨own, r, answers⟩ := some
      rw [(rest.lookup_of_answers answers).1] at failed
      contradiction
    · rw [lookup_of_not_answers some] at failed ⊢
      exact ⟨(Except.error.inj failed).symm, rfl⟩
  retain _ _ refused := World.retain_of_error refused
  toNative _ _ refused := World.toNative_of_error refused
  release _ _ refused := World.release_of_error refused
  again := rest.lookup registry expected handle

/-- A receiver that is disposed with the last reference of native code is retained once and looked
up; looked up as something else, it is not found. -/
theorem lookup_trades_last : ∃ p : Program Nat, AtRest p ∧
    (p.world.lookup globalRegistry (· == 7) ⟨16⟩).1 = .ok 0 ∧
      (p.world.lookup globalRegistry (· == 7) ⟨16⟩).2.hooks 0 = 1 ∧
      (p.world.lookup globalRegistry (· == 8) ⟨16⟩).1 = .error (.notFound ⟨16⟩) ∧
      p.Trades globalRegistry (· == 7) ⟨16⟩ ∧ p.Trades globalRegistry (· == 8) ⟨16⟩ := by
  have created : AtRest ((start : Program Nat).create 7 ⟨16⟩ ⟨true, true⟩ globalRegistry true) :=
    atRest_start.step
      (.create 7 ⟨true, true⟩ globalRegistry true rfl (by simp [start, World.empty])) rfl
  obtain ⟨⟨p, rest, world, _⟩, _⟩ :=
    created.operations (show 0 < Program.owned _ 0 from by decide)
  refine ⟨p, rest, ?_, ?_, ?_, lookup_trades rest _ _ _, lookup_trades rest _ _ _⟩
  all_goals
    rw [world]
    rfl

end Program

end Bindery.Lifetime
