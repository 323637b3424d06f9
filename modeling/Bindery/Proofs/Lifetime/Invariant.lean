import Bindery.Proofs.Lifetime.Threads

/-! # What holds of a program at any time

In every state that a program can come to, receivers are rooted, the references to a receiver are
those of managed code, those that are being given up and that of its registry, and a hook is called
at most once (`Reachable.sound`). What this says of one receiver is the main statement
(`receiver_of_reachable`).
-/

namespace Bindery.Lifetime

variable {V : Type}

/-- How many references a registry has to a receiver. -/
def Receiver.roots (r : Receiver V) : Nat := if 1 ≤ r.count then 1 else 0

theorem Receiver.roots_of_held {r : Receiver V} (held : 1 ≤ r.count) : r.roots = 1 := if_pos held

theorem Receiver.roots_of_none {r : Receiver V} (none : r.count = 0) : r.roots = 0 :=
  if_neg (by omega)

/-- How often the guard of a receiver has been taken. -/
def Receiver.takings (r : Receiver V) : Nat := if r.guard.taken then 1 else 0

/-- A block that is to be freed is that of a receiver that is released, or will be just before. -/
inductive Ordered (world : World V) : List Job → Prop where
  | nil : Ordered world []
  | unroot {id : ReceiverId} {r : Receiver V} {rest : List Job}
      (found : world.receivers[id]? = some r) (later : Ordered world rest) :
      Ordered world (.unroot id :: .freeBlock id :: rest)
  | freeBlock {id : ReceiverId} {r : Receiver V} {rest : List Job}
      (found : world.receivers[id]? = some r) (released : r.phase = .released)
      (later : Ordered world rest) : Ordered world (.freeBlock id :: rest)
  | letGo {id : ReceiverId} {rest : List Job} (later : Ordered world rest) :
      Ordered world (.letGo id :: rest)
  | finishRelease {id : ReceiverId} {rest : List Job} (later : Ordered world rest) :
      Ordered world (.finishRelease id :: rest)
  | dispose {id : ReceiverId} {rest : List Job} (later : Ordered world rest) :
      Ordered world (.dispose id :: rest)
  | announce {id : ReceiverId} {rest : List Job} (later : Ordered world rest) :
      Ordered world (.announce id :: rest)

/-- Receivers stay, and those that are released stay so. -/
def Outlast (world later : World V) : Prop :=
  ∀ (id : ReceiverId) (r : Receiver V), world.receivers[id]? = some r →
    ∃ s, later.receivers[id]? = some s ∧ (r.phase = .released → s.phase = .released)

theorem Outlast.of_eq {world later : World V} (same : later.receivers = world.receivers) :
    Outlast world later := by
  intro id r found
  exact ⟨r, by rw [same, found], fun released => released⟩

theorem Outlast.set {world : World V} {id : ReceiverId} {r next : Receiver V} {later : World V}
    (found : world.receivers[id]? = some r)
    (changed : later.receivers = (world.setReceiver id next).receivers)
    (released : r.phase = .released → next.phase = .released) : Outlast world later := by
  intro other a stored
  rw [changed, World.receivers_setReceiver found]
  by_cases here : other = id
  · subst here
    rw [found] at stored
    obtain rfl := Option.some.inj stored
    exact ⟨next, if_pos rfl, released⟩
  · exact ⟨a, by rw [if_neg here, stored], fun released => released⟩

theorem Outlast.create (world : World V) (value : V) (handle : Handle) (options : Options)
    (registry : RegistryId) (hooked : Bool) :
    Outlast world (world.create value handle options registry hooked) := by
  intro id r found
  have old := (List.getElem?_eq_some_iff.mp found).1
  refine ⟨r, ?_, fun released => released⟩
  rw [World.receivers_create, if_neg (Nat.ne_of_lt old), found]

theorem Ordered.outlast {world later : World V} {jobs : List Job} (ordered : Ordered world jobs)
    (outlast : Outlast world later) : Ordered later jobs := by
  induction ordered with
  | nil => exact .nil
  | unroot found _ ih =>
    obtain ⟨s, stored, _⟩ := outlast _ _ found
    exact .unroot stored ih
  | freeBlock found released _ ih =>
    obtain ⟨s, stored, stays⟩ := outlast _ _ found
    exact .freeBlock stored (stays released) ih
  | letGo _ ih => exact .letGo ih
  | finishRelease _ ih => exact .finishRelease ih
  | dispose _ ih => exact .dispose ih
  | announce _ ih => exact .announce ih

theorem waiting_append (threads : List (List Job)) (thread : List Job) (job : Job) :
    waiting (threads ++ [thread]) job = waiting threads job + thread.count job := by
  simp [waiting, List.flatten_append, List.count_append]

theorem waiting_turn (before after : List (List Job)) (job : Job) (more rest : List Job)
    (other : Job) : waiting (before ++ (more ++ rest) :: after) other + [job].count other =
      waiting (before ++ (job :: rest) :: after) other + more.count other := by
  simp only [waiting, List.flatten_append, List.flatten_cons, List.count_append, List.count_cons,
    List.count_nil]
  omega

namespace Program

variable {p q : Program V}

/-- What holds at any time. -/
structure Sound (p : Program V) : Prop where
  rooted : p.world.Rooted
  /-- References are those of managed code, those that are being given up and that of a registry. -/
  held : ∀ id, p.world.tally Receiver.holders id =
    p.owned id + waiting p.threads (.letGo id) + p.world.tally Receiver.roots id
  /-- A hook that was or will be called is that of a receiver whose guard has been taken. -/
  announced : ∀ id, p.world.hooks id + waiting p.threads (.announce id) ≤
    p.world.tally Receiver.takings id
  ordered : ∀ thread ∈ p.threads, Ordered p.world thread

theorem sound_start : (start : Program V).Sound where
  rooted := World.rooted_empty
  held _ := rfl
  announced _ := Nat.le_refl _
  ordered := by simp [start]

/-- A step that changes no receiver and no registry. -/
theorem Sound.same (sound : p.Sound) (receivers : q.world.receivers = p.world.receivers)
    (registries : q.world.registries = p.world.registries)
    (held : ∀ id, q.owned id + waiting q.threads (.letGo id) =
      p.owned id + waiting p.threads (.letGo id))
    (announced : ∀ id, q.world.hooks id + waiting q.threads (.announce id) ≤
      p.world.hooks id + waiting p.threads (.announce id))
    (ordered : ∀ thread ∈ q.threads, Ordered p.world thread) : q.Sound where
  rooted := sound.rooted.of_eq receivers registries
  held id := by rw [World.tally_congr receivers, World.tally_congr receivers, held, sound.held]
  announced id := by
    rw [World.tally_congr receivers]
    exact Nat.le_trans (announced id) (sound.announced id)
  ordered thread member := (ordered thread member).outlast (.of_eq receivers)

/-- A step that changes one receiver. -/
theorem Sound.change (sound : p.Sound) {id : ReceiverId} {r next : Receiver V}
    (found : p.world.receivers[id]? = some r)
    (changed : q.world.receivers = (p.world.setReceiver id next).receivers)
    (hooks : q.world.hooks = p.world.hooks) (rooted : q.world.Rooted)
    (held : ∀ other, q.owned other + waiting q.threads (.letGo other) +
        (if other = id then next.roots + r.holders else 0) =
      p.owned other + waiting p.threads (.letGo other) +
        if other = id then r.roots + next.holders else 0)
    (announced : ∀ other, waiting q.threads (.announce other) +
        (if other = id then r.takings else 0) ≤
      waiting p.threads (.announce other) + if other = id then next.takings else 0)
    (ordered : ∀ thread ∈ q.threads, Ordered q.world thread) : q.Sound where
  rooted := rooted
  held other := by
    have before := sound.held other
    have balance := held other
    rw [World.tally_congr changed, World.tally_congr changed, World.tally_setReceiver found,
      World.tally_setReceiver found]
    by_cases here : other = id
    · subst here
      rw [World.tally_eq found, World.tally_eq found] at before
      simp only [if_true] at balance ⊢
      omega
    · simp only [here, if_false] at balance ⊢
      omega
  announced other := by
    have before := sound.announced other
    have balance := announced other
    rw [World.tally_congr changed, World.tally_setReceiver found, hooks]
    by_cases here : other = id
    · subst here
      rw [World.tally_eq found] at before
      simp only [if_true] at balance ⊢
      omega
    · simp only [here, if_false] at balance ⊢
      omega
  ordered := ordered

/-- Managed code has references to receivers only. -/
theorem Sound.exists_of_owned (sound : p.Sound) {id : ReceiverId} (owned : 0 < p.owned id) :
    ∃ r, p.world.receivers[id]? = some r := by
  refine World.exists_of_tally_pos (f := Receiver.holders) ?_
  rw [sound.held]
  omega

/-- Only references to receivers are being given up. -/
theorem Sound.exists_of_waiting (sound : p.Sound) {id : ReceiverId}
    (left : 0 < waiting p.threads (.letGo id)) : ∃ r, p.world.receivers[id]? = some r := by
  refine World.exists_of_tally_pos (f := Receiver.holders) ?_
  rw [sound.held]
  omega

theorem Sound.create (sound : p.Sound) (value : V) {handle : Handle} (options : Options)
    (registry : RegistryId) (hooked : Bool)
    (free : ∀ r ∈ p.world.receivers, r.blockLive = true → r.handle ≠ handle) :
    (p.create value handle options registry hooked).Sound where
  rooted := sound.rooted.create value options registry hooked free
  held id := by
    have before := sound.held id
    simp only [Program.create, World.tally_create, gain]
    split
    · next new =>
      have none := Nat.le_of_eq new.symm
      rw [World.tally_of_length_le none, World.tally_of_length_le none] at before
      rw [Receiver.roots_of_none rfl]
      change 1 = _
      omega
    · exact before
  announced id := by
    have before := sound.announced id
    simp only [Program.create, World.tally_create]
    split
    · next new =>
      rw [World.tally_of_length_le (Nat.le_of_eq new.symm)] at before
      exact Nat.le_trans before (Nat.zero_le _)
    · exact before
  ordered thread member := (sound.ordered thread member).outlast (.create _ _ _ _ _ _)

/-- Another reference of managed code changes one receiver. -/
theorem Sound.clone (sound : p.Sound) {id : ReceiverId} {r : Receiver V}
    (found : p.world.receivers[id]? = some r) : (p.clone id).Sound := by
  have changed := World.hold_eq found
  refine sound.change (q := p.clone id) found (congrArg World.receivers changed) ?_ ?_ ?_ ?_ ?_
  · simp only [Program.clone, changed]
    rfl
  · simp only [Program.clone, changed]
    exact sound.rooted.set found (sound.rooted.evolves found rfl rfl rfl rfl rfl) Iff.rfl
  · intro other
    simp only [Program.clone, gain, Receiver.roots]
    split <;> omega
  · intro other
    exact Nat.le_refl _
  · intro thread member
    have outlast := Outlast.set found (congrArg World.receivers changed) fun released => released
    exact (sound.ordered thread member).outlast outlast

/-- The threads after a call: those that there were, and that of the call. -/
theorem ordered_call (earlier : ∀ thread ∈ p.threads, Ordered p.world thread) {world : World V}
    {jobs : List Job} (outlast : Outlast p.world world) (ordered : Ordered world jobs) :
    ∀ thread ∈ p.threads ++ [jobs], Ordered world thread := by
  intro thread member
  obtain old | new := List.mem_append.mp member
  · exact (earlier thread old).outlast outlast
  · rw [List.mem_singleton.mp new]
    exact ordered

theorem Sound.drop (sound : p.Sound) {id : ReceiverId} (owned : 0 < p.owned id) :
    (p.drop id).Sound := by
  refine sound.same (q := p.drop id) rfl rfl ?_ ?_ ?_
  · intro other
    simp only [Program.drop, lose, waiting_append, List.count_singleton, beq_iff_eq,
      Job.letGo.injEq]
    split
    · next here =>
      subst here
      rw [if_pos rfl]
      omega
    · next away =>
      rw [if_neg fun same => away same.symm]
      omega
  · intro other
    simp only [Program.drop, waiting_append, List.count_singleton, beq_iff_eq, reduceCtorEq,
      if_false]
    exact Nat.le_refl _
  · exact ordered_call sound.ordered (.of_eq rfl) (.letGo .nil)

theorem Sound.dispose (sound : p.Sound) (id : ReceiverId) : (p.dispose id).Sound := by
  refine sound.same (q := p.dispose id) rfl rfl ?_ ?_ ?_
  · intro other
    simp only [Program.dispose, waiting_append, List.count_singleton, beq_iff_eq, reduceCtorEq,
      if_false]
    rfl
  · intro other
    simp only [Program.dispose, waiting_append, List.count_singleton, beq_iff_eq, reduceCtorEq,
      if_false]
    exact Nat.le_refl _
  · exact ordered_call sound.ordered (.of_eq rfl) (.dispose .nil)

/-- A call whose section changes one receiver, and the jobs that it leaves. -/
theorem Sound.call (sound : p.Sound) {id : ReceiverId} {r next : Receiver V}
    (found : p.world.receivers[id]? = some r) {world : World V} {jobs : List Job}
    (changed : world.receivers = (p.world.setReceiver id next).receivers)
    (hooks : world.hooks = p.world.hooks) (rooted : world.Rooted)
    (released : r.phase = .released → next.phase = .released) (guard : next.guard = r.guard)
    (held : next.roots + r.holders + jobs.count (.letGo id) = r.roots + next.holders)
    (others : ∀ other, other ≠ id → jobs.count (.letGo other) = 0)
    (quiet : ∀ other, jobs.count (.announce other) = 0) (ordered : Ordered world jobs) :
    ({ p with world, threads := p.threads ++ [jobs] } : Program V).Sound := by
  refine sound.change found changed hooks rooted ?_ ?_ ?_
  · intro other
    simp only [waiting_append]
    by_cases here : other = id
    · subst here
      simp only [if_true]
      omega
    · simp only [here, if_false, others other here]
      rfl
  · intro other
    simp only [waiting_append, quiet, Receiver.takings, guard]
    exact Nat.le_refl _
  · exact ordered_call sound.ordered (.set found changed released) ordered

theorem Sound.retain (sound : p.Sound) {id : ReceiverId} {r : Receiver V}
    (found : p.world.receivers[id]? = some r) : (p.retain id).Sound := by
  simp only [Program.retain, World.retainSection_eq sound.rooted found]
  by_cases gone : r.phase = .released
  · simp only [gone, if_true]
    exact sound
  have live := sound.rooted.live_of_ne found gone
  by_cases first : r.count = 0
  · simp only [gone, first, if_true, if_false, Job.ofItem]
    have evolves : r.Evolves { r with count := 1, phase := .active, holders := r.holders + 1 } :=
      .active rfl rfl (Nat.le_refl _) rfl live live
    refine sound.call found rfl rfl (sound.rooted.enter found evolves live (Nat.le_refl _))
      (absurd · gone) rfl ?_ (fun _ _ => rfl) (fun _ => rfl) .nil
    rw [Receiver.roots_of_none first, Receiver.roots_of_held (Nat.le_refl _), List.count_nil]
    simp only [Nat.zero_add, Nat.add_comm]
  · simp only [gone, first, if_false, Job.ofItem]
    have held := Nat.pos_of_ne_zero first
    have more : 1 ≤ r.count + 1 := Nat.le_add_left _ _
    have evolves : r.Evolves { r with count := r.count + 1, phase := .active } :=
      .active rfl rfl more rfl live live
    refine sound.call found rfl rfl (sound.rooted.set found evolves (iff_of_true more held))
      (absurd · gone) rfl ?_ (fun _ _ => rfl) (fun _ => rfl) .nil
    rw [Receiver.roots_of_held held, Receiver.roots_of_held more]
    rfl

theorem Sound.release (sound : p.Sound) {id : ReceiverId} {r : Receiver V}
    (found : p.world.receivers[id]? = some r) : (p.release id).Sound := by
  simp only [Program.release, World.registryOf_eq found, World.releaseSection_eq sound.rooted found]
  match counted : r.count with
  | 0 => exact sound
  | 1 =>
    have held : 1 ≤ r.count := Nat.le_of_eq counted.symm
    have evolves : r.Evolves { r with count := 0, phase := .released } :=
      .released rfl rfl rfl rfl fun live => live
    refine sound.call found rfl rfl (sound.rooted.leave found evolves held rfl) (fun _ => rfl) rfl
      ?_ ?_ ?_ (.letGo (.finishRelease .nil))
    · rw [Receiver.roots_of_held held, Receiver.roots_of_none rfl]
      simp [releaseJobs, Job.ofItem, Nat.add_comm]
    · intro other apart
      simp [releaseJobs, Job.ofItem, apart.symm]
    · intro other
      simp [releaseJobs, Job.ofItem]
  | n + 2 =>
    have held : 1 ≤ r.count := by omega
    have fewer : 1 ≤ n + 1 := Nat.le_add_left _ _
    have active := (sound.rooted.active_iff id r found).mp held
    have live := sound.rooted.live found held
    have evolves : r.Evolves { r with count := n + 1 } := .active rfl rfl fewer active live live
    refine sound.call found rfl rfl (sound.rooted.set found evolves (iff_of_true fewer held))
      (fun released => released) rfl ?_ (fun _ _ => rfl) (fun _ => rfl) .nil
    rw [Receiver.roots_of_held held, Receiver.roots_of_held fewer]
    rfl

theorem receivers_clone {id : ReceiverId} {r : Receiver V}
    (found : p.world.receivers[id]? = some r) :
    (p.clone id).world.receivers[id]? = some { r with holders := r.holders + 1 } := by
  rw [Program.clone, World.hold_eq found, World.receivers_setReceiver_self found]

/-- A lookup that finds a receiver in its own registry is a reference more and a release. -/
theorem lookup_eq_release {id : ReceiverId} {r : Receiver V} {expected : V → Bool} {handle : Handle}
    {last : Bool} {removed : Option (Item V)} {after : World V}
    (found : p.world.receivers[id]? = some r)
    (released : (p.world.hold id).releaseSection r.registry id = (.ok (last, removed), after))
    (given : p.world.lookupSection r.registry expected handle = (.ok (id, last, removed), after)) :
    p.lookup r.registry expected handle = (p.clone id).release id := by
  have own := World.registryOf_eq (receivers_clone found)
  have taken : (p.clone id).world.releaseSection r.registry id =
      (.ok (last, removed), after) := released
  simp only [Program.lookup, given, Program.release, own, taken]
  rfl

theorem Sound.lookup (sound : p.Sound) (registry : RegistryId) (expected : V → Bool)
    (handle : Handle) : (p.lookup registry expected handle).Sound := by
  obtain ⟨fault, refused⟩ | ⟨id, r, last, removed, after, found, _, entered, _, released, given⟩ :=
    p.world.lookupSection_cases registry expected handle
  · simp only [Program.lookup, refused]
    exact sound
  obtain rfl := sound.rooted.home found entered
  rw [lookup_eq_release found released given]
  exact (sound.clone found).release (receivers_clone found)

section Turn

variable {before after : List (List Job)} {job : Job} {rest more : List Job} {world : World V}

/-- The threads after a turn: one of them has gone on, the others wait. -/
theorem ordered_turn (earlier : ∀ thread ∈ p.threads, Ordered p.world thread)
    (next : p.threads = before ++ (job :: rest) :: after) (outlast : Outlast p.world world)
    (ordered : Ordered world (more ++ rest)) :
    ∀ thread ∈ before ++ (more ++ rest) :: after, Ordered world thread := by
  intro thread member
  obtain early | late := List.mem_append.mp member
  · have old := earlier thread (by rw [next]; exact List.mem_append_left _ early)
    exact old.outlast outlast
  obtain rfl | late := List.mem_cons.mp late
  · exact ordered
  · have old := earlier thread
      (by rw [next]; exact List.mem_append_right _ (List.mem_cons_of_mem _ late))
    exact old.outlast outlast

/-- A turn whose section changes no receiver and no registry. -/
theorem Sound.turn_same (sound : p.Sound) (next : p.threads = before ++ (job :: rest) :: after)
    (receivers : world.receivers = p.world.receivers)
    (registries : world.registries = p.world.registries)
    (held : ∀ other, more.count (.letGo other) = [job].count (.letGo other))
    (announced : ∀ other, world.hooks other + more.count (.announce other) ≤
      p.world.hooks other + [job].count (.announce other))
    (ordered : Ordered p.world (more ++ rest)) :
    (⟨world, p.owned, before ++ (more ++ rest) :: after⟩ : Program V).Sound := by
  refine sound.same receivers registries ?_ ?_ ?_
  · intro other
    have turned := waiting_turn before after job more rest (.letGo other)
    have balance := held other
    simp only [next]
    omega
  · intro other
    have turned := waiting_turn before after job more rest (.announce other)
    have balance := announced other
    simp only [next]
    omega
  · exact ordered_turn sound.ordered next (.of_eq rfl) ordered

/-- A turn whose section changes one receiver. -/
theorem Sound.turn_change (sound : p.Sound) (next : p.threads = before ++ (job :: rest) :: after)
    {id : ReceiverId} {r changed : Receiver V} (found : p.world.receivers[id]? = some r)
    (receivers : world.receivers = (p.world.setReceiver id changed).receivers)
    (hooks : world.hooks = p.world.hooks) (rooted : world.Rooted)
    (released : r.phase = .released → changed.phase = .released)
    (held : changed.roots + r.holders = r.roots + changed.holders + [job].count (.letGo id))
    (others : ∀ other, other ≠ id → [job].count (.letGo other) = 0)
    (none : ∀ other, more.count (.letGo other) = 0)
    (announced : ∀ other, more.count (.announce other) + (if other = id then r.takings else 0) ≤
      if other = id then changed.takings else 0)
    (ordered : Ordered world (more ++ rest)) :
    (⟨world, p.owned, before ++ (more ++ rest) :: after⟩ : Program V).Sound := by
  refine sound.change found receivers hooks rooted ?_ ?_ ?_
  · intro other
    have turned := waiting_turn before after job more rest (.letGo other)
    rw [none other] at turned
    simp only [next]
    by_cases here : other = id
    · subst here
      simp only [if_true]
      omega
    · rw [others other here] at turned
      simp only [here, if_false]
      omega
  · intro other
    have turned := waiting_turn before after job more rest (.announce other)
    have balance := announced other
    simp only [next]
    omega
  · exact ordered_turn sound.ordered next (.set found receivers released) ordered

theorem Sound.turn_letGo (sound : p.Sound) {id : ReceiverId}
    (next : p.threads = before ++ (.letGo id :: rest) :: after) (later : Ordered p.world rest) :
    (p.turn before (.letGo id) rest after).Sound := by
  have left : 0 < waiting p.threads (.letGo id) := by
    rw [waiting, List.count_pos_iff, next]
    simp
  obtain ⟨r, found⟩ := sound.exists_of_waiting left
  have references := sound.held id
  rw [World.tally_eq found, World.tally_eq found] at references
  have evolves : r.Evolves { r with holders := r.holders - 1 } :=
    sound.rooted.evolves found rfl rfl rfl rfl rfl
  have rooted := sound.rooted.set found evolves Iff.rfl
  have outlast : Outlast p.world (p.world.setReceiver id { r with holders := r.holders - 1 }) :=
    .set found rfl fun released => released
  have fewer : r.roots + r.holders =
      r.roots + (r.holders - 1) + [Job.letGo id].count (.letGo id) := by
    simp only [List.count_singleton_self]
    omega
  have others : ∀ other, other ≠ id → [Job.letGo id].count (.letGo other) = 0 := by
    intro other apart
    simp [apart.symm]
  simp only [Program.turn, Job.perform, World.unhold_eq found]
  cases last : r.holders == 1 with
  | false =>
    exact sound.turn_change next found rfl rfl rooted (fun released => released) fewer others
      (fun _ => rfl) (fun _ => Nat.le_of_eq (Nat.zero_add _)) (later.outlast outlast)
  | true =>
    exact sound.turn_change next found rfl rfl rooted (fun released => released) fewer others
      (fun _ => rfl) (fun _ => Nat.le_of_eq (Nat.zero_add _)) (.dispose (later.outlast outlast))

theorem Sound.turn_finishRelease (sound : p.Sound) {id : ReceiverId}
    (next : p.threads = before ++ (.finishRelease id :: rest) :: after)
    (later : Ordered p.world rest) :
    (p.turn before (.finishRelease id) rest after).Sound := by
  cases found : p.world.receivers[id]? with
  | none =>
    simp only [Program.turn, Job.perform, World.noteRelease, found]
    exact sound.turn_same next rfl rfl (fun _ => rfl) (fun _ => Nat.le_refl _) later
  | some r =>
    simp only [Program.turn, Job.perform, World.noteRelease_eq found]
    have quiet : ∀ other,
        (p.world.note .trace s!"{r.handle.display} released").hooks other + 0 ≤
          p.world.hooks other + 0 := by
      intro other
      exact Nat.le_of_eq (by rw [World.hooks_note])
    cases r.options.autoDispose with
    | false => exact sound.turn_same next rfl rfl (fun _ => rfl) quiet later
    | true => exact sound.turn_same next rfl rfl (fun _ => rfl) quiet (.dispose later)

theorem Sound.turn_announce (sound : p.Sound) {id : ReceiverId}
    (next : p.threads = before ++ (.announce id :: rest) :: after)
    (later : Ordered p.world rest) :
    (p.turn before (.announce id) rest after).Sound := by
  refine sound.turn_same next (World.receivers_announce _ _) (World.registries_announce _ _)
    (fun _ => rfl) ?_ later
  intro other
  have called := World.hooks_announce_le p.world id other
  simp only [Job.perform, List.count_nil, List.count_singleton, beq_iff_eq, Job.announce.injEq]
  exact called

theorem Sound.turn_freeBlock (sound : p.Sound) {id : ReceiverId} {r : Receiver V}
    (next : p.threads = before ++ (.freeBlock id :: rest) :: after)
    (found : p.world.receivers[id]? = some r) (released : r.phase = .released)
    (later : Ordered p.world rest) :
    (p.turn before (.freeBlock id) rest after).Sound := by
  have none := sound.rooted.count_of_released found released
  have evolves : r.Evolves { r with blockLive := false } :=
    .released rfl rfl none released nofun
  have outlast : Outlast p.world (p.world.setReceiver id { r with blockLive := false }) :=
    .set found rfl fun released => released
  simp only [Program.turn, Job.perform, World.freeBlock_eq found]
  exact sound.turn_change next found rfl rfl (sound.rooted.set found evolves Iff.rfl)
    (fun released => released) rfl (fun _ _ => rfl) (fun _ => rfl)
    (fun _ => Nat.le_of_eq (Nat.zero_add _)) (later.outlast outlast)

theorem Sound.turn_dispose (sound : p.Sound) {id : ReceiverId}
    (next : p.threads = before ++ (.dispose id :: rest) :: after) (later : Ordered p.world rest) :
    (p.turn before (.dispose id) rest after).Sound := by
  cases found : p.world.receivers[id]? with
  | none =>
    simp only [Program.turn, Job.perform, World.takeGuard, found]
    exact sound.turn_same next rfl rfl (fun _ => rfl) (fun _ => Nat.le_refl _) later
  | some r =>
    have evolves : r.Evolves { r with guard := ⟨true⟩ } :=
      sound.rooted.evolves found rfl rfl rfl rfl rfl
    have rooted := sound.rooted.set found evolves Iff.rfl
    have changed := World.receivers_setReceiver_self found { r with guard := ⟨true⟩ }
    have outlast : Outlast p.world (p.world.setReceiver id { r with guard := ⟨true⟩ }) :=
      .set found rfl fun released => released
    simp only [Program.turn, Job.perform, World.takeGuard_eq found]
    cases taken : r.guard.taken with
    | true =>
      refine sound.turn_change next found rfl rfl rooted (fun released => released) rfl
        (fun _ _ => rfl) (fun _ => rfl) (fun _ => ?_) (later.outlast outlast)
      simp [Receiver.takings, taken]
    | false =>
      refine sound.turn_change next found rfl rfl rooted (fun released => released) rfl
        (fun _ _ => rfl) (fun _ => rfl) (fun other => ?_)
        (.unroot changed (.announce (later.outlast outlast)))
      by_cases here : other = id
      · subst here
        simp [Receiver.takings, taken]
      · have away : id ≠ other := fun same => here same.symm
        simp [here, away]

theorem Sound.turn_unroot (sound : p.Sound) {id : ReceiverId} {r : Receiver V}
    (next : p.threads = before ++ (.unroot id :: .freeBlock id :: rest) :: after)
    (found : p.world.receivers[id]? = some r) (later : Ordered p.world rest) :
    (p.turn before (.unroot id) (.freeBlock id :: rest) after).Sound := by
  simp only [Program.turn, Job.perform, World.unroot_eq sound.rooted found]
  by_cases none : r.count = 0
  · rw [if_pos none]
    have evolves : r.Evolves { r with phase := .released } :=
      .released rfl rfl none rfl fun live => live
    have changed := World.receivers_setReceiver_self found { r with phase := .released }
    have outlast : Outlast p.world (p.world.setReceiver id { r with phase := .released }) :=
      .set found rfl fun _ => rfl
    exact sound.turn_change next found rfl rfl (sound.rooted.set found evolves Iff.rfl)
      (fun _ => rfl) rfl (fun _ _ => rfl) (fun _ => rfl) (fun _ => Nat.le_of_eq (Nat.zero_add _))
      (.freeBlock changed rfl (later.outlast outlast))
  · rw [if_neg none]
    have held := Nat.pos_of_ne_zero none
    have references := sound.held id
    rw [World.tally_eq found, World.tally_eq found, Receiver.roots_of_held held] at references
    have evolves : r.Evolves
        { r with phase := .released, count := 0, holders := r.holders - 1 } :=
      .released rfl rfl rfl rfl fun live => live
    have changed := World.receivers_setReceiver_self found
      { r with phase := .released, count := 0, holders := r.holders - 1 }
    have outlast : Outlast p.world (p.world.setReceiver id
        { r with phase := .released, count := 0, holders := r.holders - 1 }) :=
      .set found rfl fun _ => rfl
    refine sound.turn_change next found rfl ?_ ?_ (fun _ => rfl) ?_ (fun _ _ => rfl)
      (fun _ => rfl) (fun _ => Nat.le_of_eq (Nat.zero_add _))
      (.freeBlock changed rfl (later.outlast outlast))
    · exact World.hooks_note _ _ _
    · exact (sound.rooted.leave found evolves held rfl).of_eq rfl rfl
    · rw [Receiver.roots_of_held held, Receiver.roots_of_none rfl]
      simp only [List.count_singleton, beq_iff_eq, reduceCtorEq, if_false]
      omega

/-- Every section that is left to do keeps what holds at any time. -/
theorem Sound.turn (sound : p.Sound) (next : p.threads = before ++ (job :: rest) :: after) :
    (p.turn before job rest after).Sound := by
  have ordered : Ordered p.world (job :: rest) := by
    refine sound.ordered _ ?_
    rw [next]
    exact List.mem_append_right _ List.mem_cons_self
  cases ordered with
  | unroot found later => exact sound.turn_unroot next found later
  | freeBlock found released later => exact sound.turn_freeBlock next found released later
  | letGo later => exact sound.turn_letGo next later
  | finishRelease later => exact sound.turn_finishRelease next later
  | dispose later => exact sound.turn_dispose next later
  | announce later => exact sound.turn_announce next later

end Turn

/-- Every step keeps what holds at any time. -/
theorem Sound.step (sound : p.Sound) (step : Step p q) : q.Sound := by
  cases step with
  | create value options registry hooked _ free =>
    exact sound.create value options registry hooked free
  | clone owned =>
    obtain ⟨r, found⟩ := sound.exists_of_owned owned
    exact sound.clone found
  | drop owned => exact sound.drop owned
  | retain owned =>
    obtain ⟨r, found⟩ := sound.exists_of_owned owned
    exact sound.retain found
  | release owned =>
    obtain ⟨r, found⟩ := sound.exists_of_owned owned
    exact sound.release found
  | dispose _ => exact sound.dispose _
  | lookup registry expected handle => exact sound.lookup registry expected handle
  | turn next => exact sound.turn next

/-- What holds at any time holds in every state that a program can come to. -/
theorem Reachable.sound (reachable : Reachable p) : p.Sound := by
  induction reachable with
  | start => exact sound_start
  | step _ step ih => exact ih.step step

/-- Whatever threads do and in whatever order: native code holds the receivers that are active, and
those are the ones that their registries have at their handles; a receiver whose block is freed is
released, not held, and no entry of any registry refers to it; beside the references of managed code
and those that are being given up there is that of the registry, as long as native code holds a
receiver; and no hook is called twice. -/
theorem receiver_of_reachable (reachable : Reachable p) {id : ReceiverId} {r : Receiver V}
    (found : p.world.receivers[id]? = some r) :
    (1 ≤ r.count ↔ r.phase = .active) ∧
      (r.phase = .active ↔
        (p.world.registries r.registry).get? r.handle = some (.receiver id)) ∧
      (r.blockLive = false → r.phase = .released ∧ r.count = 0 ∧
        ∀ registry handle, (p.world.registries registry).get? handle ≠ some (.receiver id)) ∧
      (1 ≤ r.count → r.holders = p.owned id + waiting p.threads (.letGo id) + 1) ∧
      p.world.hooks id ≤ 1 := by
  have sound := reachable.sound
  have active_iff := sound.rooted.active_iff id r found
  refine ⟨active_iff, ?_, ?_, ?_, ?_⟩
  · rw [← active_iff, sound.rooted.entry_iff, World.roots_receiver_iff found]
    simp
  · intro freed
    have released := sound.rooted.freed id r found freed
    have none := sound.rooted.count_of_released found released
    exact ⟨released, none, sound.rooted.entry_ne found none⟩
  · intro held
    have references := sound.held id
    rw [World.tally_eq found, World.tally_eq found, Receiver.roots_of_held held] at references
    exact references
  · have announced := sound.announced id
    rw [World.tally_eq found] at announced
    have once : r.takings ≤ 1 := by
      rw [Receiver.takings]
      split <;> omega
    omega

/-- A receiver whose last reference of managed code goes while native code holds it is looked up,
disposed and freed; before its hook is called, another one is created at its address and
retained. -/
theorem receiver_of_reachable_reused : ∃ (p : Program Nat) (first second : Receiver Nat),
    Reachable p ∧ p.world.receivers[0]? = some first ∧ p.world.receivers[1]? = some second ∧
      first.handle = second.handle ∧ first.blockLive = false ∧ 1 ≤ second.count ∧
      (1 ≤ second.count ↔ second.phase = .active) ∧
      (second.phase = .active ↔
        (p.world.registries second.registry).get? second.handle = some (.receiver 1)) ∧
      (second.blockLive = false → second.phase = .released ∧ second.count = 0 ∧
        ∀ registry handle, (p.world.registries registry).get? handle ≠ some (.receiver 1)) ∧
      (1 ≤ second.count →
        second.holders = p.owned 1 + waiting p.threads (.letGo 1) + 1) ∧
      p.world.hooks 1 ≤ 1 := by
  have created : Reachable ((start : Program Nat).create 7 ⟨16⟩ ⟨true, true⟩ globalRegistry true) :=
    .step .start (.create 7 ⟨true, true⟩ globalRegistry true rfl (by simp [start, World.empty]))
  have retained := created.step (.retain (show 0 < Program.owned _ 0 from by decide))
  have dropped := retained.step (.drop (show 0 < Program.owned _ 0 from by decide))
  have gone := dropped.step (.turn (show Program.threads _ = [[]] ++ [.letGo 0] :: [] from rfl))
  have found := gone.step (.lookup globalRegistry (fun _ => true) ⟨16⟩)
  have left := found.step
    (.turn (show Program.threads _ = [[], []] ++ [.letGo 0, .finishRelease 0] :: [] from rfl))
  have released := left.step
    (.turn (show Program.threads _ = [[], []] ++ [.finishRelease 0] :: [] from rfl))
  have guarded := released.step
    (.turn (show Program.threads _ = [[], []] ++ [.dispose 0] :: [] from rfl))
  have unrooted := guarded.step
    (.turn (show Program.threads _ =
      [[], []] ++ [.unroot 0, .freeBlock 0, .announce 0] :: [] from rfl))
  have freed := unrooted.step
    (.turn (show Program.threads _ = [[], []] ++ [.freeBlock 0, .announce 0] :: [] from rfl))
  have again := freed.step (.create 8 ⟨true, true⟩ globalRegistry true
    (show Handle.isNull ⟨16⟩ = false from rfl) (by decide))
  have rooted := again.step (.retain (show 0 < Program.owned _ 1 from by decide))
  exact ⟨_, _, _, rooted, rfl, rfl, rfl, rfl, by decide, receiver_of_reachable rooted rfl⟩

end Program

end Bindery.Lifetime
