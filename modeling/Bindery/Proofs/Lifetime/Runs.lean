import Bindery.Proofs.Lifetime.Invariant

/-! # Runs with their answers

A step of a program is a call with what its section answers, or something that nobody waits for. A
run is a list of steps, each with the state that it leaves. Main statements: what a step can do to a
receiver (`Does.change`, `Moves`), namely take a reference out or give one back, both as the step
answers, leave count and phase alone, or release a receiver whose guard has been taken; what a step
leaves to do (`Does.leaves`); and what the calls of a released receiver answer (`Does.refused`).
-/

namespace Bindery.Lifetime

variable {V : Type}

/-- What a step lets be seen. -/
inductive Deed where
  | retain (id : ReceiverId) (answer : Except Fault Nat)
  | toNative (id : ReceiverId) (answer : Except Fault Handle)
  | release (id : ReceiverId) (answer : Except Fault Bool)
  | lookup (answer : Except Fault ReceiverId)
  /-- A step that is no call, or a call that has no answer yet. -/
  | other

namespace Deed

/-- Whether a reference of native code to a receiver was taken out. -/
def takesOut (id : ReceiverId) : Deed → Bool
  | retain own (.ok _) => own == id
  | toNative own (.ok _) => own == id
  | _ => false

/-- Whether a reference of native code to a receiver was given back. -/
def givesBack (id : ReceiverId) : Deed → Bool
  | release own (.ok _) => own == id
  | lookup (.ok own) => own == id
  | _ => false

/-- No reference of native code to a receiver was taken out or given back. -/
def Quiet (id : ReceiverId) (deed : Deed) : Prop :=
  deed.takesOut id = false ∧ deed.givesBack id = false

theorem quiet_other (id : ReceiverId) : other.Quiet id := ⟨rfl, rfl⟩

/-- What is answered about a receiver that is released. -/
def Refused (id : ReceiverId) (handle : Handle) : Deed → Prop
  | retain own answer => own = id → answer = .error (.released handle)
  | toNative own answer => own = id → answer = .error (.released handle)
  | release own answer => own = id → answer = .error (.released handle)
  | lookup answer => answer ≠ .ok id
  | other => True

end Deed

namespace Program

/-- The steps of a program, with what they let be seen. A call answers what its section settles. -/
inductive Does : Program V → Deed → Program V → Prop where
  | retain {p : Program V} {id : ReceiverId} (owned : 0 < p.owned id) :
      Does p (.retain id ((p.world.retainSection id).1.map Prod.fst)) (p.retain id)
  | toNative {p : Program V} {id : ReceiverId} (owned : 0 < p.owned id) :
      Does p (.toNative id ((p.world.retainSection id).1.map fun _ =>
        (p.world.receivers[id]?.map Receiver.handle).getD .null)) (p.retain id)
  | release {p : Program V} {id : ReceiverId} (owned : 0 < p.owned id) :
      Does p (.release id ((p.world.releaseSection (p.world.registryOf id) id).1.map Prod.fst))
        (p.release id)
  | lookup {p : Program V} (registry : RegistryId) (expected : V → Bool) (handle : Handle) :
      Does p (.lookup ((p.world.lookupSection registry expected handle).1.map Prod.fst))
        (p.lookup registry expected handle)
  | create {p : Program V} (value : V) {handle : Handle} (options : Options)
      (registry : RegistryId) (hooked : Bool) (somewhere : handle.isNull = false)
      (free : ∀ r ∈ p.world.receivers, r.blockLive = true → r.handle ≠ handle) :
      Does p .other (p.create value handle options registry hooked)
  | clone {p : Program V} {id : ReceiverId} (owned : 0 < p.owned id) : Does p .other (p.clone id)
  | drop {p : Program V} {id : ReceiverId} (owned : 0 < p.owned id) : Does p .other (p.drop id)
  | dispose {p : Program V} {id : ReceiverId} (owned : 0 < p.owned id) :
      Does p .other (p.dispose id)
  | turn {p : Program V} {before after : List (List Job)} {job : Job} {rest : List Job}
      (next : p.threads = before ++ (job :: rest) :: after) :
      Does p .other (p.turn before job rest after)

variable {p q : Program V} {deed : Deed} {id : ReceiverId} {r : Receiver V}

/-- They are the steps that a program can take. -/
theorem exists_does_iff : (∃ deed, Does p deed q) ↔ Step p q := by
  constructor
  · rintro ⟨_, does⟩
    cases does with
    | retain owned => exact .retain owned
    | toNative owned => exact .retain owned
    | release owned => exact .release owned
    | lookup registry expected handle => exact .lookup registry expected handle
    | create value options registry hooked somewhere free =>
      exact .create value options registry hooked somewhere free
    | clone owned => exact .clone owned
    | drop owned => exact .drop owned
    | dispose owned => exact .dispose owned
    | turn next => exact .turn next
  · intro step
    cases step with
    | retain owned => exact ⟨_, .retain owned⟩
    | release owned => exact ⟨_, .release owned⟩
    | lookup registry expected handle => exact ⟨_, .lookup registry expected handle⟩
    | create value options registry hooked somewhere free =>
      exact ⟨_, .create value options registry hooked somewhere free⟩
    | clone owned => exact ⟨_, .clone owned⟩
    | drop owned => exact ⟨_, .drop owned⟩
    | dispose owned => exact ⟨_, .dispose owned⟩
    | turn next => exact ⟨_, .turn next⟩

/-- A call that is made from its beginning to its end answers what its section settles. -/
theorem answers_of_sections (world : World V) (id : ReceiverId) (registry : RegistryId)
    (expected : V → Bool) (handle : Handle) :
    (world.retain id).1 = (world.retainSection id).1.map Prod.fst ∧
      (world.toNative id).1 = (world.retainSection id).1.map (fun _ =>
        (world.receivers[id]?.map Receiver.handle).getD .null) ∧
      (world.release id).1 = (world.releaseSection (world.registryOf id) id).1.map Prod.fst ∧
      (world.lookup registry expected handle).1 =
        (world.lookupSection registry expected handle).1.map Prod.fst := by
  refine ⟨?_, ?_, ?_, ?_⟩
  · rw [World.retain_eq]
    rcases world.retainSection id with ⟨_ | ⟨count, displaced⟩, next⟩ <;> rfl
  · rw [World.toNative, World.retain_eq]
    rcases world.retainSection id with ⟨_ | ⟨count, displaced⟩, next⟩ <;> rfl
  · rw [World.release_eq]
    rcases world.releaseSection (world.registryOf id) id with ⟨_ | ⟨last, removed⟩, next⟩ <;> rfl
  · rw [World.lookup_eq]
    rcases world.lookupSection registry expected handle with ⟨_ | ⟨own, last, removed⟩, next⟩ <;>
      rfl

/-! ## What a call comes to -/

/-- A retain is refused by a receiver that is released, and else takes one reference out. -/
theorem retain_cases (sound : p.Sound) (found : p.world.receivers[id]? = some r) :
    (r.phase = .released ∧ (p.world.retainSection id).1 = .error (.released r.handle) ∧
        p.retain id = p) ∨
      r.phase ≠ .released ∧
        (∃ displaced, (p.world.retainSection id).1 = .ok (r.count + 1, displaced)) ∧
        (p.retain id).world.receivers =
          (p.world.setReceiver id
            { r with
              count := r.count + 1, phase := .active,
              holders := if r.count = 0 then r.holders + 1 else r.holders }).receivers := by
  have settled := World.retainSection_eq sound.rooted found
  by_cases gone : r.phase = .released
  · rw [if_pos gone] at settled
    refine .inl ⟨gone, by rw [settled], ?_⟩
    simp only [Program.retain, settled]
  rw [if_neg gone] at settled
  refine .inr ⟨gone, ?_⟩
  by_cases first : r.count = 0
  · rw [if_pos first] at settled
    refine ⟨⟨none, by rw [settled, first]⟩, ?_⟩
    simp only [Program.retain, settled, first, if_true]
    rfl
  · rw [if_neg first] at settled
    refine ⟨⟨none, by rw [settled]⟩, ?_⟩
    simp only [Program.retain, settled, first, if_false]

/-- A release is refused by a receiver that native code does not hold, and else gives one reference
back; the last one releases the receiver. -/
theorem release_cases (sound : p.Sound) (found : p.world.receivers[id]? = some r) :
    (r.count = 0 ∧ (p.world.releaseSection (p.world.registryOf id) id).1 =
        .error (if r.phase = .released then .released r.handle else .unbalanced r.handle) ∧
        p.release id = p) ∨
      1 ≤ r.count ∧
        (∃ removed, (p.world.releaseSection (p.world.registryOf id) id).1 =
          .ok (r.count == 1, removed)) ∧
        (p.release id).world.receivers =
          (p.world.setReceiver id
            { r with
              count := r.count - 1,
              phase := if r.count = 1 then .released else r.phase }).receivers := by
  have registry := World.registryOf_eq found
  have settled := World.releaseSection_eq sound.rooted found
  rcases counted : r.count with _ | _ | n
  · simp only [counted] at settled
    refine .inl ⟨rfl, by rw [registry, settled], ?_⟩
    simp only [Program.release, registry, settled]
  · simp only [counted] at settled
    refine .inr ⟨Nat.le_refl _, ⟨_, by rw [registry, settled]; rfl⟩, ?_⟩
    simp only [Program.release, registry, settled, if_true]
    rfl
  · simp only [counted] at settled
    refine .inr ⟨Nat.le_add_left _ _, ⟨none, by rw [registry, settled]; simp⟩, ?_⟩
    simp only [Program.release, registry, settled]
    simp

/-- A lookup is refused without a trace, or gives one reference back to a receiver that native code
holds, to which managed code then has another one. -/
theorem lookup_cases (sound : p.Sound) (registry : RegistryId) (expected : V → Bool)
    (handle : Handle) :
    ((∃ fault, (p.world.lookupSection registry expected handle).1 = .error fault) ∧
        p.lookup registry expected handle = p) ∨
      ∃ (id : ReceiverId) (r : Receiver V), p.world.receivers[id]? = some r ∧ 1 ≤ r.count ∧
        (∃ removed, (p.world.lookupSection registry expected handle).1 =
          .ok (id, r.count == 1, removed)) ∧
        (p.lookup registry expected handle).world.receivers =
          (p.world.setReceiver id
            { r with
              count := r.count - 1, phase := if r.count = 1 then .released else r.phase,
              holders := r.holders + 1 }).receivers := by
  obtain ⟨fault, refused⟩ | ⟨id, r, last, removed, after, found, _, entered, _, released, given⟩ :=
    p.world.lookupSection_cases registry expected handle
  · refine .inl ⟨⟨fault, by rw [refused]⟩, ?_⟩
    simp only [Program.lookup, refused]
  obtain rfl := sound.rooted.home found entered
  have own := World.registryOf_eq (receivers_clone found)
  have taken : (p.clone id).world.releaseSection r.registry id =
      (.ok (last, removed), after) := released
  obtain ⟨_, refused, _⟩ | ⟨positive, ⟨gone, settled⟩, changed⟩ :=
    release_cases (sound.clone found) (receivers_clone found)
  · rw [own, taken] at refused
    contradiction
  rw [own, taken] at settled
  obtain ⟨rfl, rfl⟩ := Prod.mk.inj (Except.ok.inj settled)
  refine .inr ⟨id, r, found, positive, ⟨removed, by rw [given]⟩, ?_⟩
  rw [lookup_eq_release found released given, changed, Program.clone, World.hold_eq found,
    World.setReceiver_setReceiver]

/-! ## What a step comes to -/

/-- What a step can do to a receiver of which it lets a deed be seen. -/
inductive Moves (id : ReceiverId) (deed : Deed) (r s : Receiver V) : Prop where
  | takesOut (takes : deed.takesOut id = true) (gives : deed.givesBack id = false)
      (live : r.phase ≠ .released) (handle : s.handle = r.handle) (count : s.count = r.count + 1)
      (phase : s.phase = .active) (guard : s.guard = r.guard)
  | givesBack (takes : deed.takesOut id = false) (gives : deed.givesBack id = true)
      (held : 1 ≤ r.count) (handle : s.handle = r.handle) (count : s.count = r.count - 1)
      (phase : s.phase = if r.count = 1 then .released else r.phase) (guard : s.guard = r.guard)
  | idle (quiet : deed.Quiet id) (handle : s.handle = r.handle) (count : s.count = r.count)
      (phase : s.phase = r.phase) (guard : r.isDisposed = true → s.isDisposed = true)
  | unrooted (quiet : deed.Quiet id) (disposed : r.isDisposed = true) (handle : s.handle = r.handle)
      (count : s.count = 0) (phase : s.phase = .released) (guard : s.guard = r.guard)

/-- What a step can do to all receivers. -/
inductive Change (p : Program V) (deed : Deed) (q : Program V) : Prop where
  | still (same : q.world.receivers = p.world.receivers) (quiet : ∀ id, deed.Quiet id)
  | one {own : ReceiverId} {r next : Receiver V} (found : p.world.receivers[own]? = some r)
      (changed : q.world.receivers = (p.world.setReceiver own next).receivers)
      (moves : Moves own deed r next) (quiet : ∀ id, own ≠ id → deed.Quiet id)
  | new (value : V) (handle : Handle) (options : Options) (registry : RegistryId) (hooked : Bool)
      (created : q.world = p.world.create value handle options registry hooked)
      (quiet : ∀ id, deed.Quiet id)

/-- The entry of a receiver is taken out only after the guard of the receiver. -/
def Guarded (p : Program V) : Prop :=
  ∀ id, Job.unroot id ∈ p.threads.flatten →
    ∃ r, p.world.receivers[id]? = some r ∧ r.isDisposed = true

/-- What a job does to a receiver with its section. Only a receiver whose guard has been taken is
released by it. -/
theorem Moves.of_makes {job : Job} {s : Receiver V} {left : List Job}
    (makes : job.Makes id r s left) (guarded : job = .unroot id → r.isDisposed = true) :
    Moves id .other r s := by
  have quiet := Deed.quiet_other id
  cases makes with
  | letGo | finishRelease | freeBlock | announce =>
    exact .idle quiet rfl rfl rfl fun disposed => disposed
  | dispose => exact .idle quiet rfl rfl rfl fun _ => rfl
  | unrootFree none => exact .unrooted quiet (guarded rfl) rfl none rfl rfl
  | unrootHeld => exact .unrooted quiet (guarded rfl) rfl rfl rfl rfl

/-- Every step changes one receiver at most, as the deed says that it lets be seen. -/
theorem Does.change (sound : p.Sound) (guarded : p.Guarded) (does : Does p deed q) :
    Change p deed q := by
  cases does with
  | retain owned | toNative owned =>
    obtain ⟨r, found⟩ := sound.exists_of_owned owned
    obtain ⟨_, refused, same⟩ | ⟨live, ⟨displaced, taken⟩, changed⟩ := retain_cases sound found
    · rw [refused, same]
      exact .still rfl fun _ => ⟨rfl, rfl⟩
    · rw [taken]
      exact .one found changed (.takesOut (beq_self_eq_true _) rfl live rfl rfl rfl rfl)
        fun _ apart => ⟨beq_false_of_ne apart, rfl⟩
  | release owned =>
    obtain ⟨r, found⟩ := sound.exists_of_owned owned
    obtain ⟨_, refused, same⟩ | ⟨held, ⟨removed, given⟩, changed⟩ := release_cases sound found
    · rw [refused, same]
      exact .still rfl fun _ => ⟨rfl, rfl⟩
    · rw [given]
      exact .one found changed (.givesBack rfl (beq_self_eq_true _) held rfl rfl rfl rfl)
        fun _ apart => ⟨rfl, beq_false_of_ne apart⟩
  | lookup registry expected handle =>
    obtain ⟨⟨fault, refused⟩, same⟩ | ⟨own, r, found, held, ⟨removed, given⟩, changed⟩ :=
      lookup_cases sound registry expected handle
    · rw [refused, same]
      exact .still rfl fun _ => ⟨rfl, rfl⟩
    · rw [given]
      exact .one found changed (.givesBack rfl (beq_self_eq_true _) held rfl rfl rfl rfl)
        fun _ apart => ⟨rfl, beq_false_of_ne apart⟩
  | create value options registry hooked _ _ =>
    exact .new value _ options registry hooked rfl Deed.quiet_other
  | clone owned =>
    obtain ⟨r, found⟩ := sound.exists_of_owned owned
    exact .one found (congrArg World.receivers (World.hold_eq found))
      (.idle (Deed.quiet_other _) rfl rfl rfl fun disposed => disposed)
      fun id _ => Deed.quiet_other id
  | drop _ => exact .still rfl Deed.quiet_other
  | dispose _ => exact .still rfl Deed.quiet_other
  | @turn before after job rest next =>
    obtain ⟨same, _⟩ | ⟨own, r, s, found, changed, makes⟩ := job.perform_cases sound.rooted
    · exact .still same Deed.quiet_other
    · -- An entry waits to be taken out only after the guard of its receiver.
      refine .one found changed (.of_makes makes fun unroots => ?_) fun id _ => Deed.quiet_other id
      obtain ⟨_, stored, disposed⟩ := guarded own (by simp [next, unroots])
      rw [found] at stored
      obtain rfl := Option.some.inj stored
      exact disposed

theorem Moves.isDisposed {s : Receiver V} (moves : Moves id deed r s)
    (disposed : r.isDisposed = true) : s.isDisposed = true := by
  cases moves with
  | takesOut _ _ _ _ _ _ guard => rwa [Receiver.isDisposed, guard]
  | givesBack _ _ _ _ _ _ guard => rwa [Receiver.isDisposed, guard]
  | idle _ _ _ _ guard => exact guard disposed
  | unrooted _ _ _ _ _ guard => rwa [Receiver.isDisposed, guard]

theorem Moves.handle_eq {s : Receiver V} (moves : Moves id deed r s) : s.handle = r.handle := by
  cases moves <;> assumption

/-- What is held changes by what is taken out and given back, unless a receiver is released that
native code holds although its guard has been taken. -/
theorem Moves.count_eq {s : Receiver V} (moves : Moves id deed r s)
    (vacant : r.isDisposed = true → r.count = 0) :
    s.count + (deed.givesBack id).toNat = r.count + (deed.takesOut id).toNat := by
  cases moves with
  | takesOut takes gives _ _ count _ _ =>
    rw [takes, gives, count]
    rfl
  | givesBack takes gives held _ count _ _ =>
    rw [takes, gives, count]
    exact Nat.sub_add_cancel held
  | idle quiet _ count _ _ => rw [quiet.1, quiet.2, count]
  | unrooted quiet disposed _ count _ _ => rw [quiet.1, quiet.2, count, vacant disposed]

/-- Every receiver that there is stays, and moves. -/
theorem Change.exists_moves (change : Change p deed q) (found : p.world.receivers[id]? = some r) :
    ∃ s, q.world.receivers[id]? = some s ∧ Moves id deed r s := by
  cases change with
  | still same quiet =>
    exact ⟨r, by rw [same, found], .idle (quiet id) rfl rfl rfl fun disposed => disposed⟩
  | @one own a next stored changed moves quiet =>
    by_cases here : own = id
    · subst here
      rw [stored] at found
      obtain rfl := Option.some.inj found
      exact ⟨next, by rw [changed, World.receivers_setReceiver_self stored], moves⟩
    · have apart : id ≠ own := fun same => here same.symm
      refine ⟨r, ?_, .idle (quiet id here) rfl rfl rfl fun disposed => disposed⟩
      rw [changed, World.receivers_setReceiver stored, if_neg apart, found]
  | new value handle options registry hooked created quiet =>
    have old := (List.getElem?_eq_some_iff.mp found).1
    refine ⟨r, ?_, .idle (quiet id) rfl rfl rfl fun disposed => disposed⟩
    rw [created, World.receivers_create, if_neg (Nat.ne_of_lt old), found]

/-- Nothing is seen of a receiver before it is created, and none comes otherwise than new. -/
theorem Change.of_none (change : Change p deed q) (none : p.world.receivers[id]? = none) :
    deed.Quiet id ∧ ∀ s, q.world.receivers[id]? = some s →
      s.count = 0 ∧ s.phase = .constructed ∧ s.isDisposed = false := by
  cases change with
  | still same quiet =>
    refine ⟨quiet id, fun s stored => ?_⟩
    rw [same, none] at stored
    contradiction
  | @one own a next found changed moves quiet =>
    have apart : own ≠ id := by
      rintro rfl
      rw [found] at none
      contradiction
    refine ⟨quiet id apart, fun s stored => ?_⟩
    rw [changed, World.receivers_setReceiver found, if_neg apart.symm, none] at stored
    contradiction
  | new value handle options registry hooked created quiet =>
    refine ⟨quiet id, fun s stored => ?_⟩
    rw [created, World.receivers_create, none] at stored
    split at stored
    · obtain rfl := Option.some.inj stored
      exact ⟨rfl, rfl, rfl⟩
    · contradiction

/-! ## What a step leaves to do -/

/-- The jobs that a step brings: that of giving a reference up, that of ending the release of a
receiver, which is then released, that of a disposal that managed code asks for, and those that the
section of another job leaves. -/
inductive Begins (p : Program V) (deed : Deed) (q : Program V) : Job → Prop where
  | letGo (own : ReceiverId) : Begins p deed q (.letGo own)
  | finishRelease {own : ReceiverId} {r : Receiver V} (found : q.world.receivers[own]? = some r)
      (released : r.phase = .released) : Begins p deed q (.finishRelease own)
  | dispose (own : ReceiverId) (unseen : deed = .other) (begun : q = p.dispose own) :
      Begins p deed q (.dispose own)
  | perform {done job : Job} (waits : done ∈ p.threads.flatten)
      (world : q.world = (done.perform p.world).1) (left : job ∈ (done.perform p.world).2) :
      Begins p deed q job

/-- What a step does to what is left to do: nothing, a thread of a call more, or one job done. -/
inductive Leaves (p : Program V) (deed : Deed) (q : Program V) : Prop where
  | same (threads : q.threads = p.threads)
  | call {jobs : List Job} (threads : q.threads = p.threads ++ [jobs])
      (begins : ∀ job ∈ jobs, Begins p deed q job)
  | turn {before after : List (List Job)} {job : Job} {rest : List Job}
      (next : p.threads = before ++ (job :: rest) :: after)
      (turned : q = p.turn before job rest after)

theorem Begins.of_mem_ofItem {job : Job} {item : Option (Item V)} (member : job ∈ Job.ofItem item) :
    Begins p deed q job := by
  rcases item with _ | _ | own
  · cases member
  · cases member
  · rw [List.mem_singleton.mp member]
    exact .letGo own

/-- What a release leaves to do ends with the receiver where that is released. -/
theorem Begins.of_mem_releaseJobs {job : Job} {last : Bool} {removed : Option (Item V)}
    (found : q.world.receivers[id]? = some r) (released : last = true → r.phase = .released)
    (member : job ∈ releaseJobs id last removed) : Begins p deed q job := by
  rcases List.mem_append.mp member with item | finish
  · exact .of_mem_ofItem item
  · cases last with
    | false => cases finish
    | true =>
      rw [if_pos rfl, List.mem_singleton] at finish
      rw [finish]
      exact .finishRelease found (released rfl)

theorem threads_retain {count : Nat} {displaced : Option (Item V)}
    (settled : (p.world.retainSection id).1 = .ok (count, displaced)) :
    (p.retain id).threads = p.threads ++ [Job.ofItem displaced] := by
  simp only [Program.retain]
  split
  · next failed => rw [failed] at settled; cases settled
  · next taken => rw [taken] at settled; cases settled; rfl

theorem threads_release {last : Bool} {removed : Option (Item V)}
    (settled : (p.world.releaseSection (p.world.registryOf id) id).1 = .ok (last, removed)) :
    (p.release id).threads = p.threads ++ [releaseJobs id last removed] := by
  simp only [Program.release]
  split
  · next failed => rw [failed] at settled; cases settled
  · next given => rw [given] at settled; cases settled; rfl

theorem threads_lookup {registry : RegistryId} {expected : V → Bool} {handle : Handle} {last : Bool}
    {removed : Option (Item V)}
    (settled : (p.world.lookupSection registry expected handle).1 = .ok (id, last, removed)) :
    (p.lookup registry expected handle).threads = p.threads ++ [releaseJobs id last removed] := by
  simp only [Program.lookup]
  split
  · next failed => rw [failed] at settled; cases settled
  · next given => rw [given] at settled; cases settled; rfl

/-- A receiver whose last reference is given back is released. -/
theorem Leaves.of_givenBack {next : Receiver V} {removed : Option (Item V)}
    (found : p.world.receivers[id]? = some r)
    (threads : q.threads = p.threads ++ [releaseJobs id (r.count == 1) removed])
    (changed : q.world.receivers = (p.world.setReceiver id next).receivers)
    (phase : next.phase = if r.count = 1 then .released else r.phase) : Leaves p deed q := by
  refine .call threads fun job member => .of_mem_releaseJobs (r := next) ?_ (fun last => ?_) member
  · rw [changed, World.receivers_setReceiver_self found]
  · rw [phase, if_pos (beq_iff_eq.mp last)]

/-- That is all that a step does to what is left to do. -/
theorem Does.leaves (sound : p.Sound) (does : Does p deed q) : Leaves p deed q := by
  cases does with
  | retain owned | toNative owned =>
    obtain ⟨r, found⟩ := sound.exists_of_owned owned
    obtain ⟨_, _, same⟩ | ⟨_, ⟨displaced, taken⟩, _⟩ := retain_cases sound found
    · exact .same (congrArg threads same)
    · exact .call (threads_retain taken) fun _ => .of_mem_ofItem
  | release owned =>
    obtain ⟨r, found⟩ := sound.exists_of_owned owned
    obtain ⟨_, _, same⟩ | ⟨_, ⟨removed, given⟩, changed⟩ := release_cases sound found
    · exact .same (congrArg threads same)
    · exact .of_givenBack found (threads_release given) changed rfl
  | lookup registry expected handle =>
    obtain ⟨_, same⟩ | ⟨own, r, found, _, ⟨removed, given⟩, changed⟩ :=
      lookup_cases sound registry expected handle
    · exact .same (congrArg threads same)
    · exact .of_givenBack found (threads_lookup given) changed rfl
  | create _ _ _ _ _ _ | clone _ => exact .same rfl
  | @drop own _ =>
    refine .call rfl fun job member => ?_
    rw [List.mem_singleton.mp member]
    exact .letGo own
  | @dispose own _ =>
    refine .call rfl fun job member => ?_
    rw [List.mem_singleton.mp member]
    exact .dispose own rfl rfl
  | turn next => exact .turn next rfl

theorem mem_threads_iff {before after : List (List Job)} {done job : Job} {rest : List Job}
    (next : p.threads = before ++ (done :: rest) :: after) :
    job ∈ p.threads.flatten ↔
      job ∈ before.flatten ∨ (job = done ∨ job ∈ rest) ∨ job ∈ after.flatten := by
  simp only [next, List.flatten_append, List.flatten_cons, List.mem_append, List.mem_cons]

theorem mem_turn_iff {before after : List (List Job)} {done job : Job} {rest : List Job} :
    job ∈ (p.turn before done rest after).threads.flatten ↔
      job ∈ before.flatten ∨ (job ∈ (done.perform p.world).2 ∨ job ∈ rest) ∨
        job ∈ after.flatten := by
  simp only [turn, List.flatten_append, List.flatten_cons, List.mem_append]

/-- What is left to do after a step was so before it, or begins with it. -/
theorem Leaves.begins {job : Job} (leaves : Leaves p deed q) (member : job ∈ q.threads.flatten) :
    job ∈ p.threads.flatten ∨ Begins p deed q job := by
  cases leaves with
  | same threads => exact .inl (threads ▸ member)
  | call threads begins =>
    rw [threads, List.flatten_append, List.mem_append, List.flatten_singleton] at member
    exact member.imp_right (begins job)
  | @turn before after done rest next turned =>
    rw [turned, mem_turn_iff] at member
    obtain early | (left | later) | late := member
    · exact .inl ((mem_threads_iff next).mpr (.inl early))
    · have waits : done ∈ p.threads.flatten := (mem_threads_iff next).mpr (.inr (.inl (.inl rfl)))
      exact .inr (.perform waits (by rw [turned]; rfl) left)
    · exact .inl ((mem_threads_iff next).mpr (.inr (.inl (.inr later))))
    · exact .inl ((mem_threads_iff next).mpr (.inr (.inr late)))

/-- What is left to do stays so until it is done. -/
theorem Leaves.waits {job : Job} (leaves : Leaves p deed q) (member : job ∈ p.threads.flatten) :
    job ∈ q.threads.flatten ∨ q.world = (job.perform p.world).1 := by
  cases leaves with
  | same threads => exact .inl (threads ▸ member)
  | call threads _ =>
    rw [threads, List.flatten_append, List.mem_append]
    exact .inl (.inl member)
  | @turn before after done rest next turned =>
    rw [turned, mem_turn_iff]
    obtain early | (rfl | later) | late := (mem_threads_iff next).mp member
    · exact .inl (.inl early)
    · exact .inr rfl
    · exact .inl (.inr (.inl (.inr later)))
    · exact .inl (.inr (.inr late))

/-- An entry that is to be taken out from now on is that of a receiver whose guard has just been
taken. -/
theorem Begins.disposed (rooted : p.world.Rooted) (begins : Begins p deed q (.unroot id)) :
    ∃ r, q.world.receivers[id]? = some r ∧ r.isDisposed = true := by
  cases begins with
  | @perform done _ _ world left =>
    obtain ⟨_, none⟩ | ⟨own, r, s, found, changed, makes⟩ := done.perform_cases rooted
    · rw [none] at left
      cases left
    · obtain rfl := makes.eq_of_unroot_mem left
      refine ⟨s, ?_, makes.isDisposed_iff.mpr (.inr left)⟩
      rw [world, changed, World.receivers_setReceiver_self found]

theorem guarded_start : (start : Program V).Guarded := by
  simp [Guarded, start]

/-- Every step takes out entries only after the guards of their receivers. -/
theorem Does.guarded (sound : p.Sound) (guarded : p.Guarded) (does : Does p deed q) :
    q.Guarded := by
  intro id member
  obtain waits | begins := (does.leaves sound).begins member
  · obtain ⟨r, found, disposed⟩ := guarded id waits
    obtain ⟨s, stored, moves⟩ := (does.change sound guarded).exists_moves found
    exact ⟨s, stored, moves.isDisposed disposed⟩
  · exact begins.disposed sound.rooted

/-- A receiver that is released gives out nothing more, takes nothing back and is not found. -/
theorem Does.refused (sound : p.Sound) (does : Does p deed q)
    (found : p.world.receivers[id]? = some r) (released : r.phase = .released) :
    deed.Refused id r.handle := by
  have none := sound.rooted.count_of_released found released
  cases does with
  | retain _ | toNative _ =>
    rintro rfl
    obtain ⟨_, refused, _⟩ | ⟨live, _⟩ := retain_cases sound found
    · rw [refused]
      rfl
    · exact absurd released live
  | release _ =>
    rintro rfl
    obtain ⟨_, refused, _⟩ | ⟨held, _⟩ := release_cases sound found
    · rw [refused, if_pos released]
      rfl
    · omega
  | lookup registry expected handle =>
    obtain ⟨⟨fault, refused⟩, _⟩ | ⟨own, a, stored, held, ⟨removed, given⟩, _⟩ :=
      lookup_cases sound registry expected handle
    · rw [refused]
      exact nofun
    · rw [given]
      intro answered
      obtain rfl : own = id := Except.ok.inj answered
      rw [found] at stored
      obtain rfl := Option.some.inj stored
      omega
  | create _ _ _ _ _ _ | clone _ | drop _ | dispose _ | turn _ => trivial

/-! ## Runs -/

/-- A run from one state to another: what its steps let be seen, each with the state after it. -/
inductive Run (p : Program V) : List (Deed × Program V) → Program V → Prop where
  | nil : Run p [] p
  | concat {trace : List (Deed × Program V)} {deed : Deed} {q next : Program V}
      (run : Run p trace q) (does : Does q deed next) : Run p (trace ++ [(deed, next)]) next

variable {trace : List (Deed × Program V)}

/-- A run keeps what holds at any time. -/
theorem Run.keeps (run : Run p trace q) (sound : p.Sound) (guarded : p.Guarded) :
    q.Sound ∧ q.Guarded := by
  induction run with
  | nil => exact ⟨sound, guarded⟩
  | concat _ does ih =>
    obtain ⟨sound, guarded⟩ := ih
    exact ⟨sound.step (exists_does_iff.mp ⟨_, does⟩), does.guarded sound guarded⟩

/-- What a run lets be seen is what one of its steps does. -/
theorem Run.exists_does {after : Program V} (run : Run p trace q) (member : (deed, after) ∈ trace) :
    ∃ (earlier : List (Deed × Program V)) (before : Program V),
      Run p earlier before ∧ Does before deed after := by
  induction run with
  | nil => contradiction
  | concat run does ih =>
    obtain old | new := List.mem_append.mp member
    · exact ih old
    · obtain ⟨rfl, rfl⟩ := Prod.mk.inj (List.mem_singleton.mp new)
      exact ⟨_, _, run, does⟩

end Program

end Bindery.Lifetime
