import Bindery.Proofs.Lifetime.Accounts
import Bindery.Proofs.Lifetime.Rest

/-! # Receivers that nobody disposes

A receiver that nobody begins to dispose is disposed all the same: with its last reference, or when
native code has let it go. Then nothing is held of it any more (`SparingRun.spent`), so that its
disposal takes nothing away from native code. Main statement: throughout a run in which nobody
begins to dispose a receiver, its count is what was taken out less what was given back, and it is
released as soon as the two are equal again (`SparingRun.released_iff`).
-/

namespace Bindery.Lifetime

variable {V : Type} {id : ReceiverId}

/-- Jobs that end with the disposal of a receiver, or may do so. -/
def Job.Ends (id : ReceiverId) (job : Job) : Prop :=
  job = .finishRelease id ∨ job = .dispose id ∨ job = .unroot id

/-- A section leaves what may end with a disposal where it was such a job itself, or where it took
the last reference away. -/
theorem Job.Makes.ends {job more : Job} {own : ReceiverId} {r s : Receiver V} {left : List Job}
    (makes : job.Makes own r s left) (member : more ∈ left) (ends : more.Ends id) :
    job.Ends id ∨ own = id ∧ s.holders = 0 := by
  cases makes with
  | letGo =>
    split at member
    · next last =>
      rw [List.mem_singleton.mp member] at ends
      obtain rfl : own = id := by simpa [Job.Ends] using ends
      exact .inr ⟨rfl, by rw [beq_iff_eq.mp last]⟩
    · cases member
  | finishRelease =>
    split at member
    · rw [List.mem_singleton.mp member] at ends
      exact .inl (by simpa [Job.Ends] using ends)
    · cases member
  | dispose =>
    split at member
    · cases member
    · simp only [List.mem_cons, List.not_mem_nil, or_false] at member
      refine .inl ?_
      obtain rfl | rfl | rfl := member
      · simpa [Job.Ends] using ends
      · simp [Job.Ends] at ends
      · simp [Job.Ends] at ends
  | unrootFree _ | unrootHeld | freeBlock | announce => cases member

namespace Program

variable {p q : Program V} {deed : Deed} {r s : Receiver V} {trace : List (Deed × Program V)}

/-- A receiver is released, or nobody has a reference to it. -/
def Spent (p : Program V) (id : ReceiverId) : Prop :=
  ∃ r, p.world.receivers[id]? = some r ∧ (r.phase = .released ∨ r.holders = 0)

/-- Native code holds nothing of what is spent. -/
theorem Spent.count_eq_zero (spent : p.Spent id) (sound : p.Sound)
    (found : p.world.receivers[id]? = some r) : r.count = 0 := by
  obtain ⟨_, stored, released | free⟩ := spent
  · rw [found] at stored
    obtain rfl := Option.some.inj stored
    exact sound.rooted.count_of_released found released
  · rw [found] at stored
    obtain rfl := Option.some.inj stored
    have held := sound.held id
    rw [World.tally_eq found, World.tally_eq found, free] at held
    have roots : r.roots = 0 := by omega
    rcases Nat.eq_zero_or_pos r.count with none | counted
    · exact none
    · rw [Receiver.roots_of_held counted] at roots
      contradiction

/-! ## References do not come back -/

/-- Where one receiver changes, the holders of each are at most what they were if its own are. -/
theorem exists_holders_le_of_set {world later : World V} {own : ReceiverId} {a : Receiver V}
    (next : Receiver V) (changed : later.receivers = (world.setReceiver own next).receivers)
    (found : world.receivers[own]? = some a) (stored : world.receivers[id]? = some r)
    (fewer : own = id → next.holders ≤ a.holders) :
    ∃ s, later.receivers[id]? = some s ∧ s.holders ≤ r.holders := by
  rw [changed]
  by_cases here : own = id
  · subst here
    rw [found] at stored
    obtain rfl := Option.some.inj stored
    exact ⟨next, World.receivers_setReceiver_self found next, fewer rfl⟩
  · refine ⟨r, ?_, Nat.le_refl _⟩
    rw [World.receivers_setReceiver found, if_neg (Ne.symm here), stored]

/-- No section of a job adds a reference. -/
theorem exists_holders_le_of_perform {world : World V} (rooted : world.Rooted) (job : Job)
    (stored : world.receivers[id]? = some r) :
    ∃ s, (job.perform world).1.receivers[id]? = some s ∧ s.holders ≤ r.holders := by
  obtain ⟨same, _⟩ | ⟨own, a, next, found, changed, makes⟩ := job.perform_cases rooted
  · exact ⟨r, by rw [same, stored], Nat.le_refl _⟩
  · exact exists_holders_le_of_set next changed found stored fun _ => makes.holders_le

/-- A receiver to which managed code has no reference and which native code does not hold gets none
by any step. -/
theorem Does.exists_holders_le (sound : p.Sound) (does : Does p deed q)
    (found : p.world.receivers[id]? = some r) (free : p.owned id = 0) (none : r.count = 0) :
    ∃ s, q.world.receivers[id]? = some s ∧ s.holders ≤ r.holders := by
  have idle (same : q.world.receivers = p.world.receivers) :
      ∃ s, q.world.receivers[id]? = some s ∧ s.holders ≤ r.holders :=
    ⟨r, by rw [same, found], Nat.le_refl _⟩
  have away {own : ReceiverId} (owned : 0 < p.owned own) : own ≠ id := by
    rintro rfl
    omega
  cases does with
  | retain owned | toNative owned =>
    obtain ⟨a, stored⟩ := sound.exists_of_owned owned
    obtain ⟨_, _, same⟩ | ⟨_, _, changed⟩ := retain_cases sound stored
    · exact idle (by rw [same])
    · exact exists_holders_le_of_set _ changed stored found fun here => absurd here (away owned)
  | release owned =>
    obtain ⟨a, stored⟩ := sound.exists_of_owned owned
    obtain ⟨_, _, same⟩ | ⟨_, _, changed⟩ := release_cases sound stored
    · exact idle (by rw [same])
    · exact exists_holders_le_of_set _ changed stored found fun here => absurd here (away owned)
  | lookup registry expected handle =>
    obtain ⟨_, same⟩ | ⟨own, a, stored, held, _, changed⟩ :=
      lookup_cases sound registry expected handle
    · exact idle (by rw [same])
    · refine exists_holders_le_of_set _ changed stored found fun here => ?_
      rw [here, found] at stored
      obtain rfl := Option.some.inj stored
      omega
  | create value options registry hooked _ _ =>
    have old := (List.getElem?_eq_some_iff.mp found).1
    refine ⟨r, ?_, Nat.le_refl _⟩
    rw [Program.create, World.receivers_create, if_neg (Nat.ne_of_lt old), found]
  | clone owned =>
    obtain ⟨a, stored⟩ := sound.exists_of_owned owned
    exact exists_holders_le_of_set _ (congrArg World.receivers (World.hold_eq stored)) stored found
      fun here => absurd here (away owned)
  | drop _ | dispose _ => exact idle rfl
  | turn _ => exact exists_holders_le_of_perform sound.rooted _ found

/-- What is spent stays so. -/
theorem Does.spent (sound : p.Sound) (guarded : p.Guarded) (does : Does p deed q)
    (spent : p.Spent id) : q.Spent id := by
  have ⟨r, found, ended⟩ := spent
  rcases ended with released | free
  · obtain ⟨s, stored, moves⟩ := (does.change sound guarded).exists_moves found
    exact ⟨s, stored, .inl (moves.released released)⟩
  · have held := sound.held id
    rw [World.tally_eq found, free] at held
    obtain ⟨s, stored, fewer⟩ :=
      does.exists_holders_le sound found (by omega) (spent.count_eq_zero sound found)
    exact ⟨s, stored, .inr (by omega)⟩

/-! ## Disposals that nobody asks for -/

/-- What may end with the disposal of a receiver is left to do only for one that is spent. -/
def Undisturbed (id : ReceiverId) (p : Program V) : Prop :=
  ∀ job ∈ p.threads.flatten, job.Ends id → p.Spent id

/-- What begins with a step and may end with the disposal of a receiver was asked for, or comes from
a job that might end so too, unless the receiver is spent from then on. -/
theorem Begins.ends (rooted : p.world.Rooted) {job : Job} (begins : Begins p deed q job)
    (ends : job.Ends id) :
    (∃ job ∈ p.threads.flatten, job.Ends id) ∨ (deed = .other ∧ q = p.dispose id) ∨ q.Spent id := by
  cases begins with
  | letGo own => simp [Job.Ends] at ends
  | @finishRelease own r found released =>
    obtain rfl : own = id := by simpa [Job.Ends] using ends
    exact .inr (.inr ⟨r, found, .inl released⟩)
  | dispose own unseen begun =>
    obtain rfl : own = id := by simpa [Job.Ends] using ends
    exact .inr (.inl ⟨unseen, begun⟩)
  | @perform done _ waits world left =>
    obtain ⟨_, none⟩ | ⟨own, r, s, found, changed, makes⟩ := done.perform_cases rooted
    · rw [none] at left
      cases left
    · obtain same | ⟨rfl, free⟩ := makes.ends left ends
      · exact .inl ⟨done, waits, same⟩
      · refine .inr (.inr ⟨s, ?_, .inr free⟩)
        rw [world, changed, World.receivers_setReceiver_self found]

/-- A step by which nobody begins to dispose a receiver leaves to do, of what may end with its
disposal, only what was left already, unless the receiver is spent from then on. -/
theorem Does.ends_mem (sound : p.Sound) (does : Does p deed q)
    (spares : deed = .other → q ≠ p.dispose id) {job : Job} (member : job ∈ q.threads.flatten)
    (ends : job.Ends id) : (∃ job ∈ p.threads.flatten, job.Ends id) ∨ q.Spent id := by
  obtain waits | begins := (does.leaves sound).begins member
  · exact .inl ⟨job, waits, ends⟩
  · obtain old | ⟨unseen, begun⟩ | spent := begins.ends sound.rooted ends
    · exact .inl old
    · exact absurd begun (spares unseen)
    · exact .inr spent

/-- A run in which nobody begins to dispose a receiver. -/
inductive SparingRun (id : ReceiverId) (p : Program V) :
    List (Deed × Program V) → Program V → Prop where
  | nil : SparingRun id p [] p
  | concat {trace : List (Deed × Program V)} {deed : Deed} {q next : Program V}
      (run : SparingRun id p trace q) (does : Does q deed next)
      (spares : deed = .other → next ≠ q.dispose id) :
      SparingRun id p (trace ++ [(deed, next)]) next

theorem SparingRun.run (run : SparingRun id p trace q) : Run p trace q := by
  induction run with
  | nil => exact .nil
  | concat _ does _ ih => exact ih.concat does

theorem SparingRun.reachable (run : SparingRun id start trace p) : Reachable p := by
  induction run with
  | nil => exact .start
  | concat _ does _ ih => exact ih.step (exists_does_iff.mp ⟨_, does⟩)

theorem SparingRun.undisturbed (run : SparingRun id start trace p) : p.Undisturbed id := by
  induction run with
  | nil => nofun
  | concat run does spares ih =>
    intro job member ends
    have sound := run.reachable.sound
    obtain ⟨old, waits, same⟩ | spent := does.ends_mem sound spares member ends
    · exact does.spent sound run.reachable.guarded (ih old waits same)
    · exact spent

/-- Whoever takes the guard of such a receiver disposes nothing that native code holds. -/
theorem SparingRun.spent (run : SparingRun id start trace p)
    (found : p.world.receivers[id]? = some r) (disposed : r.isDisposed = true) : p.Spent id := by
  obtain released | waits := run.reachable.followed id r found disposed
  · exact ⟨r, found, .inl released⟩
  · exact run.undisturbed _ waits (.inr (.inr rfl))

/-! ## The books of such a receiver -/

/-- What a receiver has is what was taken out and not given back, and nothing was taken out before
native code held it. -/
structure Ledger (trace : List (Deed × Program V)) (id : ReceiverId) (r : Receiver V) : Prop where
  balance : r.count + given trace id = taken trace id
  untouched : r.phase = .constructed → taken trace id = 0

/-- The ledger stays in order with all that a step can do to a receiver, as a disposal comes only
when native code holds nothing any more. -/
theorem Ledger.concat (ledger : Ledger trace id r) (rooted : p.world.Rooted)
    (found : p.world.receivers[id]? = some r) (moves : Moves id deed r s)
    (vacant : r.isDisposed = true → r.count = 0) (q : Program V) :
    Ledger (trace ++ [(deed, q)]) id s := by
  constructor
  · have balance := ledger.balance
    have count := moves.count_eq vacant
    rw [taken_concat, given_concat]
    omega
  · intro constructed
    rw [taken_concat]
    cases moves with
    | takesOut _ _ _ _ _ phase _ => rw [constructed] at phase; cases phase
    | givesBack takes _ held _ _ phase _ =>
      have active := (rooted.active_iff id r found).mp held
      rw [constructed, active] at phase
      split at phase <;> cases phase
    | idle quiet _ _ phase _ =>
      rw [quiet.1, ledger.untouched (phase ▸ constructed)]
      rfl
    | unrooted _ _ _ _ phase _ => rw [constructed] at phase; cases phase

theorem SparingRun.ledger (run : SparingRun id start trace p)
    (found : p.world.receivers[id]? = some r) : Ledger trace id r := by
  induction run generalizing r with
  | nil => simp [start, World.empty] at found
  | @concat trace deed p q run does _ ih =>
    have sound := run.reachable.sound
    have change := does.change sound run.reachable.guarded
    cases earlier : p.world.receivers[id]? with
    | none =>
      obtain ⟨takes, gives, _⟩ := run.run.books.1 id earlier
      obtain ⟨quiet, new⟩ := change.of_none earlier
      obtain ⟨count, _, _⟩ := new r found
      constructor
      · rw [taken_concat, given_concat, takes, gives, quiet.1, quiet.2, count]
        rfl
      · rw [taken_concat, takes, quiet.1]
        exact fun _ => rfl
    | some a =>
      obtain ⟨s, stored, moves⟩ := change.exists_moves earlier
      rw [found] at stored
      obtain rfl := Option.some.inj stored
      exact (ih earlier).concat sound.rooted earlier moves
        (fun disposed => (run.spent earlier disposed).count_eq_zero sound earlier) q

/-- A receiver of which native code has taken something out is released exactly when all of it was
given back. -/
theorem SparingRun.released_iff (run : SparingRun id start trace p)
    (found : p.world.receivers[id]? = some r) (used : 1 ≤ taken trace id) :
    r.phase = .released ↔ given trace id = taken trace id := by
  have ledger := run.ledger found
  have balance := ledger.balance
  have rooted := run.reachable.sound.rooted
  constructor
  · intro released
    have none := rooted.count_of_released found released
    omega
  · intro all
    have inactive : r.phase ≠ .active := fun active => by
      have held := (rooted.active_iff id r found).mpr active
      omega
    cases phase : r.phase with
    | constructed =>
      have none := ledger.untouched phase
      omega
    | active => exact absurd phase inactive
    | released => rfl

end Program

end Bindery.Lifetime
