import Bindery.Proofs.Lifetime.Direct
import Bindery.Proofs.Lifetime.Invariant

/-! # Registries whose entries are left alone

Direct calls do no harm as long as they leave alone what lives at the handles of receivers that
native code holds, and put receivers into no other registry than their own. Then a receiver that
native code holds is where it was entered, at any time and whatever threads do. Main statement:
`takesOnlyItself_iff_and_of_considerate`.
-/

namespace Bindery.Lifetime

variable {V : Type}

namespace World

variable {world : World V} {id : ReceiverId} {r next : Receiver V}

/-- A receiver that native code holds has its entry, beside which there may be others; and the
receivers that a registry has are its own. -/
structure Kept (world : World V) : Prop extends Coherent world where
  entered : ∀ (id : ReceiverId) (r : Receiver V), world.receivers[id]? = some r → 1 ≤ r.count →
    (world.registries r.registry).get? r.handle = some (.receiver id)
  home : ∀ registry handle id, (world.registries registry).get? handle = some (.receiver id) →
    ∃ r, world.receivers[id]? = some r ∧ r.registry = registry

theorem kept_empty : (World.empty : World V).Kept where
  active_iff := by simp [World.empty]
  freed := by simp [World.empty]
  apart := by simp [World.empty]
  entered := by simp [World.empty]
  home := by simp [World.empty, Registry.empty, Registry.get?]

/-- Only receivers and registries count. -/
theorem Kept.of_eq {later : World V} (kept : world.Kept)
    (receivers : later.receivers = world.receivers)
    (registries : later.registries = world.registries) : later.Kept where
  active_iff := by rw [receivers]; exact kept.active_iff
  freed := by rw [receivers]; exact kept.freed
  apart := by rw [receivers]; exact kept.apart
  entered := by rw [receivers, registries]; exact kept.entered
  home := by rw [receivers, registries]; exact kept.home

/-- A receiver may change, if it has its entry when native code holds it afterwards. -/
theorem Kept.set (kept : world.Kept) (found : world.receivers[id]? = some r)
    (evolves : r.Evolves next)
    (own : 1 ≤ next.count → (world.registries r.registry).get? r.handle = some (.receiver id)) :
    (world.setReceiver id next).Kept where
  toCoherent := kept.toCoherent.set found evolves
  entered := by
    intro other a stored held
    rw [receivers_setReceiver found] at stored
    rw [registries_setReceiver]
    split at stored
    · next here =>
      obtain rfl := Option.some.inj stored
      rw [here, evolves.registry, evolves.handle]
      exact own held
    · exact kept.entered other a stored held
  home := by
    intro registry handle other lives
    obtain ⟨a, stored, home⟩ := kept.home registry handle other lives
    rw [receivers_setReceiver found]
    by_cases here : other = id
    · subst here
      rw [found] at stored
      obtain rfl := Option.some.inj stored
      exact ⟨next, if_pos rfl, evolves.registry.trans home⟩
    · exact ⟨a, by rw [if_neg here, stored], home⟩

/-- What native code holds stays with its entry. -/
theorem Kept.set_of_held (kept : world.Kept) (found : world.receivers[id]? = some r)
    (evolves : r.Evolves next) (held : 1 ≤ next.count → 1 ≤ r.count) :
    (world.setReceiver id next).Kept :=
  kept.set found evolves fun later => kept.entered id r found (held later)

/-- A receiver may change in what does not count. -/
theorem Kept.set_idle (kept : world.Kept) (found : world.receivers[id]? = some r)
    (handle : next.handle = r.handle) (registry : next.registry = r.registry)
    (count : next.count = r.count) (phase : next.phase = r.phase)
    (block : next.blockLive = r.blockLive) : (world.setReceiver id next).Kept := by
  refine kept.set_of_held found (kept.evolves found handle registry count phase block) ?_
  rw [count]
  exact fun held => held

/-- A registry may change, if those of its receivers that native code holds have their entries
afterwards, and all receivers in it are its own. -/
theorem Kept.setRegistry (kept : world.Kept) {registry : RegistryId} {changed : Registry V}
    (entered : ∀ (id : ReceiverId) (r : Receiver V), world.receivers[id]? = some r → 1 ≤ r.count →
      r.registry = registry → changed.get? r.handle = some (.receiver id))
    (home : ∀ handle id, changed.get? handle = some (.receiver id) →
      ∃ r, world.receivers[id]? = some r ∧ r.registry = registry) :
    (world.setRegistry registry changed).Kept where
  toCoherent := kept.toCoherent.setRegistry _ _
  entered := by
    intro id r found held
    rw [receivers_setRegistry] at found
    rw [registries_setRegistry]
    split
    · next same => exact entered id r found held same
    · exact kept.entered id r found held
  home := by
    intro other place id lives
    rw [registries_setRegistry] at lives
    rw [receivers_setRegistry]
    split at lives
    · next same =>
      subst same
      exact home place id lives
    · exact kept.home _ _ _ lives

/-- An item may be put in where no other receiver that native code holds is entered, a receiver into
its own registry. -/
theorem Kept.insert (kept : world.Kept) {registry : RegistryId} {handle : Handle} {item : Item V}
    (away : ∀ (id : ReceiverId) (r : Receiver V), world.receivers[id]? = some r → 1 ≤ r.count →
      r.registry = registry → r.handle = handle → item = .receiver id)
    (home : ∀ id, item = .receiver id →
      ∃ r, world.receivers[id]? = some r ∧ r.registry = registry) :
    (world.setRegistry registry ((world.registries registry).insert handle item)).Kept := by
  refine kept.setRegistry (fun id r found held same => ?_) fun place id lives => ?_
  · rw [Registry.get?_insert]
    split
    · next here => rw [away id r found held same here]
    · rw [← same, kept.entered id r found held]
  · rw [Registry.get?_insert] at lives
    split at lives
    · exact home id (Option.some.inj lives)
    · exact kept.home _ _ _ lives

/-- An item may be taken out that is not the entry of a receiver that native code holds. -/
theorem Kept.remove (kept : world.Kept) {registry : RegistryId} {handle : Handle}
    (away : ∀ (id : ReceiverId) (r : Receiver V), world.receivers[id]? = some r → 1 ≤ r.count →
      r.registry = registry → r.handle ≠ handle) :
    (world.setRegistry registry ((world.registries registry).remove handle)).Kept := by
  refine kept.setRegistry (fun id r found held same => ?_) fun place id lives => ?_
  · rw [Registry.get?_remove, if_neg (away id r found held same), ← same,
      kept.entered id r found held]
  · rw [Registry.get?_remove] at lives
    split at lives
    · contradiction
    · exact kept.home _ _ _ lives

/-- A receiver is entered with the first reference of native code. -/
theorem Kept.enter (kept : world.Kept) (found : world.receivers[id]? = some r)
    (evolves : r.Evolves next) (live : r.blockLive = true) :
    ((world.setReceiver id next).setRegistry r.registry
      ((world.registries r.registry).insert r.handle (.receiver id))).Kept := by
  have inserted : (world.setRegistry r.registry
      ((world.registries r.registry).insert r.handle (.receiver id))).Kept := by
    refine kept.insert ?_ ?_
    · intro other a stored held _ address
      rw [kept.apart other id a r stored found (kept.live stored held) live address]
    · intro other same
      obtain rfl := Item.receiver.inj same
      exact ⟨r, found, rfl⟩
  refine inserted.set found evolves fun _ => ?_
  rw [registries_setRegistry, if_pos rfl, Registry.get?_insert, if_pos rfl]

/-- The entry of a receiver goes with the last reference of native code. -/
theorem Kept.leave (kept : world.Kept) (found : world.receivers[id]? = some r)
    (evolves : r.Evolves next) (live : r.blockLive = true) (none : next.count = 0) :
    ((world.setReceiver id next).setRegistry r.registry
      ((world.registries r.registry).remove r.handle)).Kept := by
  have changed : (world.setReceiver id next).Kept :=
    kept.set found evolves fun held => by omega
  refine changed.remove fun other a stored held _ address => ?_
  rw [receivers_setReceiver found] at stored
  split at stored
  · obtain rfl := Option.some.inj stored
    omega
  · next elsewhere =>
    exact elsewhere (kept.apart other id a r stored found (kept.live stored held) live address)

/-- A receiver that is being disposed is released, and its entry is taken out if it is there. -/
theorem Kept.unroot (kept : world.Kept) (found : world.receivers[id]? = some r) :
    (world.unroot id).Kept ∧ ∃ next, next.phase = .released ∧
      (world.unroot id).receivers = (world.setReceiver id next).receivers := by
  have without : r.count = 0 →
      (world.setReceiver id { r with phase := .released }).Kept := by
    intro none
    have evolves : r.Evolves { r with phase := .released } :=
      .released rfl rfl none rfl fun live => live
    exact kept.set_of_held found evolves fun held => held
  -- A receiver lacks its entry only when native code does not hold it.
  have unheld : (world.registries r.registry).get? r.handle ≠ some (.receiver id) →
      r.count = 0 := by
    intro elsewhere
    refine Nat.eq_zero_of_not_pos fun held => ?_
    exact elsewhere (kept.entered id r found held)
  simp only [World.unroot, found]
  split
  · next entry entered =>
    split
    · next own =>
      subst own
      let next : Receiver V := { r with phase := .released, count := 0, holders := r.holders - 1 }
      have evolves : r.Evolves next := .released rfl rfl rfl rfl fun live => live
      have changed : (world.setReceiver entry next).Kept :=
        kept.set found evolves fun held => absurd held (Nat.not_succ_le_zero 0)
      have removed : ((world.setReceiver entry next).setRegistry r.registry
          ((world.registries r.registry).remove r.handle)).Kept := by
        refine changed.remove fun other a stored held same address => ?_
        have there := changed.entered other a stored held
        rw [registries_setReceiver, same, address, entered] at there
        obtain rfl := Item.receiver.inj (Option.some.inj there)
        rw [receivers_setReceiver_self found] at stored
        obtain rfl := Option.some.inj stored
        exact absurd held (Nat.not_succ_le_zero 0)
      refine ⟨removed.of_eq ?_ ?_, next, rfl, ?_⟩ <;> split <;> rfl
    · next apart =>
      have none := unheld fun there => by
        rw [entered] at there
        exact apart (Item.receiver.inj (Option.some.inj there))
      exact ⟨without none, _, rfl, rfl⟩
  · next absent =>
    exact ⟨without (unheld (absent id)), _, rfl, rfl⟩

/-- A receiver comes with a block at an address that no other block has. -/
theorem Kept.create (kept : world.Kept) (value : V) {handle : Handle} (options : Options)
    (registry : RegistryId) (hooked : Bool)
    (free : ∀ r ∈ world.receivers, r.blockLive = true → r.handle ≠ handle) :
    (world.create value handle options registry hooked).Kept where
  toCoherent := kept.toCoherent.create value options registry hooked free
  entered := by
    intro other a stored held
    rw [receivers_create] at stored
    split at stored
    · obtain rfl := Option.some.inj stored
      simp [Receiver.fresh] at held
    · exact kept.entered other a stored held
  home := by
    intro within place other lives
    obtain ⟨a, stored, home⟩ := kept.home within place other lives
    have old := (List.getElem?_eq_some_iff.mp stored).1
    exact ⟨a, by rw [receivers_create, if_neg (Nat.ne_of_lt old), stored], home⟩

end World

namespace Program

variable {p q : Program V} {id : ReceiverId} {r : Receiver V}

/-- A call leaves alone what lives at the handles of receivers that native code holds, and puts
receivers into their own registries. -/
structure Considerate (p : Program V) (call : Direct V) : Prop where
  away : ∀ r ∈ p.world.receivers, 1 ≤ r.count → r.registry = call.registry →
    r.handle ≠ call.handle
  home : ∀ id r, call.entering? = some id → p.world.receivers[id]? = some r →
    r.registry = call.registry

/-- What holds at any time where all direct calls are considerate. -/
structure Kept (p : Program V) : Prop where
  world : p.world.Kept
  known : ∀ id, 0 < p.owned id → ∃ r, p.world.receivers[id]? = some r
  ordered : ∀ thread ∈ p.threads, Ordered p.world thread

theorem kept_start : (start : Program V).Kept where
  world := World.kept_empty
  known _ owned := absurd owned (Nat.not_lt_zero _)
  ordered := by simp [start]

/-- The receivers to which managed code has references stay. -/
theorem Kept.known_of_outlast (kept : p.Kept) {world : World V} (outlast : Outlast p.world world)
    (owned : 0 < p.owned id) : ∃ r, world.receivers[id]? = some r := by
  obtain ⟨r, found⟩ := kept.known id owned
  obtain ⟨s, stored, _⟩ := outlast id r found
  exact ⟨s, stored⟩

/-- A call whose section leaves the entries of receivers where they are. -/
theorem Kept.call (kept : p.Kept) {world : World V} {jobs : List Job} (after : world.Kept)
    (outlast : Outlast p.world world) (ordered : Ordered world jobs) :
    ({ p with world, threads := p.threads ++ [jobs] } : Program V).Kept where
  world := after
  known _ owned := kept.known_of_outlast outlast owned
  ordered := ordered_call kept.ordered outlast ordered

theorem Kept.create (kept : p.Kept) (value : V) {handle : Handle} (options : Options)
    (registry : RegistryId) (hooked : Bool)
    (free : ∀ r ∈ p.world.receivers, r.blockLive = true → r.handle ≠ handle) :
    (p.create value handle options registry hooked).Kept where
  world := kept.world.create value options registry hooked free
  known := by
    intro id owned
    rw [Program.create, World.receivers_create]
    simp only [Program.create, gain] at owned
    split
    · exact ⟨_, rfl⟩
    · next old =>
      rw [if_neg old] at owned
      exact kept.known id owned
  ordered thread member := (kept.ordered thread member).outlast (.create _ _ _ _ _ _)

theorem Kept.clone (kept : p.Kept) (found : p.world.receivers[id]? = some r) :
    (p.clone id).Kept := by
  have outlast : Outlast p.world (p.world.setReceiver id { r with holders := r.holders + 1 }) :=
    .set found rfl fun released => released
  rw [Program.clone, World.hold_eq found]
  refine ⟨kept.world.set_idle found rfl rfl rfl rfl rfl, ?_, ?_⟩
  · intro other owned
    by_cases here : other = id
    · subst here
      exact ⟨_, World.receivers_setReceiver_self found _⟩
    · simp only [gain, here, if_false] at owned
      exact kept.known_of_outlast outlast owned
  · exact fun thread member => (kept.ordered thread member).outlast outlast

theorem Kept.drop (kept : p.Kept) (id : ReceiverId) : (p.drop id).Kept where
  world := kept.world
  known := by
    intro other owned
    refine kept.known other ?_
    simp only [Program.drop, lose] at owned
    split at owned <;> omega
  ordered := ordered_call kept.ordered (.of_eq rfl) (.letGo .nil)

theorem Kept.dispose (kept : p.Kept) (id : ReceiverId) : (p.dispose id).Kept :=
  kept.call kept.world (.of_eq rfl) (.dispose .nil)

theorem ordered_ofItem {world : World V} (item : Option (Item V)) {jobs : List Job}
    (ordered : Ordered world jobs) : Ordered world (Job.ofItem item ++ jobs) := by
  rcases item with _ | _ | _
  · exact ordered
  · exact ordered
  · exact .letGo ordered

theorem Kept.retain (kept : p.Kept) (found : p.world.receivers[id]? = some r) :
    (p.retain id).Kept := by
  simp only [Program.retain, World.retainSection_displacing found]
  by_cases gone : r.phase = .released
  · simp only [gone, if_true]
    exact kept
  have live := kept.world.live_of_ne found gone
  by_cases first : r.count = 0
  · simp only [gone, first, if_true, if_false]
    have evolves : r.Evolves { r with count := 1, phase := .active, holders := r.holders + 1 } :=
      .active rfl rfl (Nat.le_refl _) rfl live live
    refine kept.call (kept.world.enter found evolves live) (.set found rfl (absurd · gone)) ?_
    simpa using ordered_ofItem _ .nil
  · simp only [gone, first, if_false, Job.ofItem]
    have more : 1 ≤ r.count + 1 := Nat.le_add_left _ _
    have evolves : r.Evolves { r with count := r.count + 1, phase := .active } :=
      .active rfl rfl more rfl live live
    exact kept.call
      (kept.world.set_of_held found evolves fun _ => Nat.pos_of_ne_zero first)
      (.set found rfl (absurd · gone)) .nil

theorem Kept.release (kept : p.Kept) (found : p.world.receivers[id]? = some r) :
    (p.release id).Kept := by
  simp only [Program.release, World.registryOf_eq found, World.releaseSection_removing found]
  rcases counted : r.count with _ | _ | n
  · exact kept
  · have live := kept.world.live found (Nat.le_of_eq counted.symm)
    have evolves : r.Evolves { r with count := 0, phase := .released } :=
      .released rfl rfl rfl rfl fun live => live
    exact kept.call (kept.world.leave found evolves live rfl) (.set found rfl fun _ => rfl)
      (ordered_ofItem _ (.finishRelease .nil))
  · have held : 1 ≤ r.count := by omega
    have fewer : 1 ≤ n + 1 := Nat.le_add_left _ _
    have active := (kept.world.active_iff id r found).mp held
    have live := kept.world.live found held
    have evolves : r.Evolves { r with count := n + 1 } := .active rfl rfl fewer active live live
    exact kept.call (kept.world.set_of_held found evolves fun _ => held)
      (.set found rfl fun released => released) .nil

theorem Kept.lookup (kept : p.Kept) (registry : RegistryId) (expected : V → Bool)
    (handle : Handle) : (p.lookup registry expected handle).Kept := by
  obtain ⟨fault, refused⟩ | ⟨id, r, last, removed, after, found, _, entered, _, released, given⟩ :=
    p.world.lookupSection_cases registry expected handle
  · simp only [Program.lookup, refused]
    exact kept
  obtain ⟨_, stored, rfl⟩ := kept.world.home registry handle id entered
  rw [found] at stored
  obtain rfl := Option.some.inj stored
  rw [lookup_eq_release found released given]
  exact (kept.clone found).release (receivers_clone found)

/-! ## Direct calls -/

/-- What a registry hands out is a receiver that there is. -/
theorem Kept.known_regain (kept : p.Kept) {registry : RegistryId} {handle : Handle}
    (owned : 0 < regain p.owned ((p.world.registries registry).get? handle) id) :
    ∃ r, p.world.receivers[id]? = some r := by
  match lived : (p.world.registries registry).get? handle with
  | none | some (.plain _) =>
    rw [lived] at owned
    exact kept.known id owned
  | some (.receiver own) =>
    rw [lived] at owned
    simp only [regain, gain] at owned
    split at owned
    · next here =>
      obtain ⟨r, found, _⟩ := kept.world.home registry handle own lived
      exact ⟨r, by rw [here, found]⟩
    · exact kept.known id owned

theorem Kept.direct (kept : p.Kept) {call : Direct V}
    (owned : ∀ id, call.entering? = some id → 0 < p.owned id) (considerate : p.Considerate call) :
    (p.direct call).Kept := by
  obtain ⟨away, home⟩ := considerate
  have elsewhere : ∀ (id : ReceiverId) (r : Receiver V), p.world.receivers[id]? = some r →
      1 ≤ r.count → r.registry = call.registry → r.handle ≠ call.handle :=
    fun id r found => away r (List.mem_of_getElem? found)
  cases call with
  | remove registry handle =>
    refine ⟨kept.world.remove elsewhere, fun id more => kept.known_regain more, ?_⟩
    exact fun thread member => (kept.ordered thread member).outlast (.of_eq rfl)
  | insert registry handle item =>
    have inserted : (p.world.setRegistry registry
        ((p.world.registries registry).insert handle item)).Kept := by
      refine kept.world.insert ?_ ?_
      · exact fun id r found held same here => absurd here (elsewhere id r found held same)
      · rintro id rfl
        obtain ⟨r, found⟩ := kept.known id (owned id rfl)
        exact ⟨r, found, home id r rfl found⟩
    cases item with
    | plain value =>
      refine ⟨inserted, fun id more => kept.known_regain more, ?_⟩
      exact fun thread member => (kept.ordered thread member).outlast (.of_eq rfl)
    | receiver own =>
      -- The entry is a reference too, which makes no difference to what it says of the receiver.
      obtain ⟨r, found⟩ := kept.known own (owned own rfl)
      have outlast : Outlast p.world
          (p.world.setReceiver own { r with holders := r.holders + 1 }) :=
        .set found rfl fun released => released
      have held : (p.world.hold own).setRegistry registry
            ((p.world.registries registry).insert handle (.receiver own)) =
          (p.world.setRegistry registry ((p.world.registries registry).insert handle
            (.receiver own))).setReceiver own { r with holders := r.holders + 1 } := by
        rw [World.hold_eq found]
        rfl
      have after : (p.direct (.insert registry handle (.receiver own))).world.Kept := by
        change ((p.world.hold own).setRegistry registry _).Kept
        rw [held]
        exact inserted.set_idle found rfl rfl rfl rfl rfl
      have receivers : (p.direct (.insert registry handle (.receiver own))).world.receivers =
          (p.world.setReceiver own { r with holders := r.holders + 1 }).receivers := by
        have changed := congrArg World.receivers held
        exact changed
      refine ⟨after, fun id more => ?_, fun thread member => ?_⟩
      · obtain ⟨a, stored⟩ := kept.known_regain more
        obtain ⟨b, there, _⟩ := outlast id a stored
        exact ⟨b, by rw [receivers, there]⟩
      · exact (kept.ordered thread member).outlast (.set found receivers fun released => released)

/-! ## Turns -/

section Turn

variable {before after : List (List Job)} {job : Job} {rest more : List Job} {world : World V}

/-- A turn whose section leaves the entries of receivers where they are. -/
theorem Kept.turned (kept : p.Kept) (next : p.threads = before ++ (job :: rest) :: after)
    (later : world.Kept) (outlast : Outlast p.world world)
    (ordered : Ordered world (more ++ rest)) :
    (⟨world, p.owned, before ++ (more ++ rest) :: after⟩ : Program V).Kept where
  world := later
  known _ owned := kept.known_of_outlast outlast owned
  ordered := ordered_turn kept.ordered next outlast ordered

theorem Kept.turn_letGo (kept : p.Kept)
    (next : p.threads = before ++ (.letGo id :: rest) :: after) (later : Ordered p.world rest) :
    (p.turn before (.letGo id) rest after).Kept := by
  cases found : p.world.receivers[id]? with
  | none =>
    simp only [Program.turn, Job.perform, World.unhold, found]
    exact kept.turned next kept.world (.of_eq rfl) later
  | some r =>
    have changed : (p.world.setReceiver id { r with holders := r.holders - 1 }).Kept :=
      kept.world.set_idle found rfl rfl rfl rfl rfl
    have outlast : Outlast p.world (p.world.setReceiver id { r with holders := r.holders - 1 }) :=
      .set found rfl fun released => released
    simp only [Program.turn, Job.perform, World.unhold_eq found]
    cases r.holders == 1 with
    | false => exact kept.turned next changed outlast (later.outlast outlast)
    | true => exact kept.turned next changed outlast (.dispose (later.outlast outlast))

theorem Kept.turn_finishRelease (kept : p.Kept)
    (next : p.threads = before ++ (.finishRelease id :: rest) :: after)
    (later : Ordered p.world rest) : (p.turn before (.finishRelease id) rest after).Kept := by
  cases found : p.world.receivers[id]? with
  | none =>
    simp only [Program.turn, Job.perform, World.noteRelease, found]
    exact kept.turned next kept.world (.of_eq rfl) later
  | some r =>
    have noted : (p.world.note .trace s!"{r.handle.display} released").Kept :=
      kept.world.of_eq rfl rfl
    simp only [Program.turn, Job.perform, World.noteRelease_eq found]
    cases r.options.autoDispose with
    | false => exact kept.turned next noted (.of_eq rfl) (later.outlast (.of_eq rfl))
    | true => exact kept.turned next noted (.of_eq rfl) (.dispose (later.outlast (.of_eq rfl)))

theorem Kept.turn_dispose (kept : p.Kept)
    (next : p.threads = before ++ (.dispose id :: rest) :: after) (later : Ordered p.world rest) :
    (p.turn before (.dispose id) rest after).Kept := by
  cases found : p.world.receivers[id]? with
  | none =>
    simp only [Program.turn, Job.perform, World.takeGuard, found]
    exact kept.turned next kept.world (.of_eq rfl) later
  | some r =>
    have changed : (p.world.setReceiver id { r with guard := ⟨true⟩ }).Kept :=
      kept.world.set_idle found rfl rfl rfl rfl rfl
    have outlast : Outlast p.world (p.world.setReceiver id { r with guard := ⟨true⟩ }) :=
      .set found rfl fun released => released
    have stored := World.receivers_setReceiver_self found { r with guard := ⟨true⟩ }
    simp only [Program.turn, Job.perform, World.takeGuard_eq found]
    cases r.guard.taken with
    | true => exact kept.turned next changed outlast (later.outlast outlast)
    | false =>
      exact kept.turned next changed outlast (.unroot stored (.announce (later.outlast outlast)))

theorem Kept.turn_unroot (kept : p.Kept)
    (next : p.threads = before ++ (.unroot id :: .freeBlock id :: rest) :: after)
    (found : p.world.receivers[id]? = some r) (later : Ordered p.world rest) :
    (p.turn before (.unroot id) (.freeBlock id :: rest) after).Kept := by
  obtain ⟨unrooted, s, released, receivers⟩ := kept.world.unroot found
  have outlast : Outlast p.world (p.world.unroot id) := .set found receivers fun _ => released
  have stored : (p.world.unroot id).receivers[id]? = some s := by
    rw [receivers, World.receivers_setReceiver_self found]
  exact kept.turned next unrooted outlast (.freeBlock stored released (later.outlast outlast))

theorem Kept.turn_freeBlock (kept : p.Kept)
    (next : p.threads = before ++ (.freeBlock id :: rest) :: after)
    (found : p.world.receivers[id]? = some r) (released : r.phase = .released)
    (later : Ordered p.world rest) : (p.turn before (.freeBlock id) rest after).Kept := by
  have none := kept.world.count_of_released found released
  have evolves : r.Evolves { r with blockLive := false } := .released rfl rfl none released nofun
  have outlast : Outlast p.world (p.world.setReceiver id { r with blockLive := false }) :=
    .set found rfl fun released => released
  simp only [Program.turn, Job.perform, World.freeBlock_eq found]
  exact kept.turned next (kept.world.set_of_held found evolves fun held => held) outlast
    (later.outlast outlast)

theorem Kept.turn_announce (kept : p.Kept)
    (next : p.threads = before ++ (.announce id :: rest) :: after) (later : Ordered p.world rest) :
    (p.turn before (.announce id) rest after).Kept := by
  have same := World.receivers_announce p.world id
  exact kept.turned next (kept.world.of_eq same (World.registries_announce p.world id))
    (.of_eq same) (later.outlast (.of_eq same))

/-- Every section that is left to do keeps what holds where all direct calls are considerate. -/
theorem Kept.turn (kept : p.Kept) (next : p.threads = before ++ (job :: rest) :: after) :
    (p.turn before job rest after).Kept := by
  have ordered : Ordered p.world (job :: rest) := by
    refine kept.ordered _ ?_
    rw [next]
    exact List.mem_append_right _ List.mem_cons_self
  cases ordered with
  | unroot found later => exact kept.turn_unroot next found later
  | freeBlock found released later => exact kept.turn_freeBlock next found released later
  | letGo later => exact kept.turn_letGo next later
  | finishRelease later => exact kept.turn_finishRelease next later
  | dispose later => exact kept.turn_dispose next later
  | announce later => exact kept.turn_announce next later

end Turn

/-- Every step keeps what holds where all direct calls are considerate. -/
theorem Kept.step (kept : p.Kept) (step : Step p q) : q.Kept := by
  cases step with
  | create value options registry hooked _ free =>
    exact kept.create value options registry hooked free
  | clone owned =>
    obtain ⟨r, found⟩ := kept.known _ owned
    exact kept.clone found
  | drop _ => exact kept.drop _
  | retain owned =>
    obtain ⟨r, found⟩ := kept.known _ owned
    exact kept.retain found
  | release owned =>
    obtain ⟨r, found⟩ := kept.known _ owned
    exact kept.release found
  | dispose _ => exact kept.dispose _
  | lookup registry expected handle => exact kept.lookup registry expected handle
  | turn next => exact kept.turn next

/-- A receiver that native code holds is where it was entered, so that nothing else is there. -/
theorem Kept.undisplaced (kept : p.Kept) : p.Undisplaced := by
  intro id r found last registry gives item lives
  have entered := kept.world.entered id r found (Nat.le_of_eq last.symm)
  have own : registry = r.registry := by
    cases gives with
    | release _ => rfl
    | lookup _ lives _ =>
      obtain ⟨_, stored, home⟩ := kept.world.home _ _ _ lives
      rw [found] at stored
      rw [Option.some.inj stored, home]
  rw [own, entered] at lives
  exact (Option.some.inj lives).symm

theorem ReachableWith.kept (reachable : ReachableWith Considerate p) : p.Kept := by
  induction reachable with
  | start => exact kept_start
  | step _ step ih => exact ih.step step
  | direct _ owned considerate ih => exact ih.direct owned considerate

/-- What a program can come to without direct calls it can come to with them. -/
theorem Reachable.with {permits : Program V → Direct V → Prop} (reachable : Reachable p) :
    ReachableWith permits p := by
  induction reachable with
  | start => exact .start
  | step _ step ih => exact ih.step step

/-- In any state, only a release or a lookup takes out another item than the receiver for which it
is done. The states in which they do not are exactly those in which a receiver whose last reference
may be given back has nothing but itself at its handle. All states are like that to which a program
comes whose direct calls are considerate, and so if there are no such calls. -/
theorem takesOnlyItself_iff_and_of_considerate :
    (∀ (p q : Program V) (id : ReceiverId) (registry : RegistryId) (handle : Handle)
        (item : Item V), ActsFor id p q → Removes p q registry handle item →
        item ≠ .receiver id →
        q = p.release id ∨ ∃ expected place, q = p.lookup registry expected place) ∧
      (∀ p : Program V, p.TakesOnlyItself ↔ p.Undisplaced) ∧
      (∀ p : Program V, ReachableWith Considerate p → p.TakesOnlyItself) ∧
      ∀ p : Program V, Reachable p → p.TakesOnlyItself := by
  have considerate : ∀ p : Program V, ReachableWith Considerate p → p.TakesOnlyItself :=
    fun p reachable => (takesOnlyItself_iff p).mpr reachable.kept.undisplaced
  refine ⟨?_, takesOnlyItself_iff, considerate, fun p reachable => considerate p reachable.with⟩
  intro p q id registry handle item acts removes other
  obtain own | ⟨_, which⟩ := acts.removes_cases removes
  · exact absurd own other
  · exact which

/-- A receiver is retained while another value lives elsewhere, and its release leaves that value
where it is. -/
theorem takesOnlyItself_iff_and_of_considerate_elsewhere :
    let p := ((start.create 5 ⟨16⟩ ⟨false, false⟩ globalRegistry false).retain 0).direct
      (.insert globalRegistry ⟨32⟩ (.plain 7))
    ReachableWith Considerate p ∧ ActsFor 0 p (p.release 0) ∧
      Removes p (p.release 0) globalRegistry ⟨16⟩ (.receiver 0) ∧ p.TakesOnlyItself := by
  intro p
  have created : ReachableWith Considerate
      ((start : Program Nat).create 5 ⟨16⟩ ⟨false, false⟩ globalRegistry false) :=
    .step .start (.create 5 ⟨false, false⟩ globalRegistry false rfl (by simp [start, World.empty]))
  have retained := created.step (.retain (show 0 < Program.owned _ 0 from by decide))
  have elsewhere : ReachableWith Considerate p := by
    refine retained.direct (fun _ entering => by contradiction) ⟨?_, ?_⟩
    · decide
    · exact fun _ _ entering => by contradiction
  exact ⟨elsewhere, .release (by decide), ⟨rfl, by decide⟩,
    takesOnlyItself_iff_and_of_considerate.2.2.1 p elsewhere⟩

end Program

end Bindery.Lifetime
