import Bindery.Proofs.Lifetime.Runs

/-! # Programs at rest

A call that has begun can go on to its end while all other threads wait (`Reachable.finish`), and
what it then has done is what the whole operation does. Where no thread has anything left to do, a
receiver whose guard has been taken is released (`AtRest.released_of_disposed`); in between it may
still be active, which is why the guard alone says little of a program that goes on.
-/

namespace Bindery.Lifetime

variable {V : Type}

/-- How many sections a job comes to at most. -/
def Job.weight : Job → Nat
  | .letGo _ | .finishRelease _ => 5
  | .dispose _ => 4
  | .unroot _ | .freeBlock _ | .announce _ => 1

/-- How many sections jobs come to at most. -/
def Job.weights : List Job → Nat
  | [] => 0
  | job :: jobs => job.weight + weights jobs

theorem Job.weights_append (jobs more : List Job) :
    weights (jobs ++ more) = weights jobs + weights more := by
  induction jobs with
  | nil => exact (Nat.zero_add _).symm
  | cons job jobs ih => rw [List.cons_append, weights, ih, weights, Nat.add_assoc]

/-- A section leaves less to do than there was. -/
theorem Job.weights_perform_lt (world : World V) (job : Job) :
    weights (job.perform world).2 < job.weight := by
  cases job with
  | letGo id =>
    simp only [perform]
    split <;> simp [weights, weight]
  | finishRelease id =>
    simp only [perform]
    split <;> simp [weights, weight]
  | dispose id =>
    simp only [perform]
    split <;> simp [weights, weight]
  | unroot id | freeBlock id | announce id => simp [perform, weights, weight]

theorem Job.completeAll_append (world : World V) (jobs more : List Job) :
    completeAll world (jobs ++ more) = completeAll (completeAll world jobs) more :=
  List.foldl_append

namespace Program

variable {p q : Program V} {id : ReceiverId} {r s : Receiver V}

/-- A thread can go on to its end while all others wait. -/
theorem Reachable.finish {p : Program V} {before after : List (List Job)} {jobs : List Job}
    (reachable : Reachable p) (next : p.threads = before ++ jobs :: after) :
    ∃ q, Reachable q ∧ q.world = Job.completeAll p.world jobs ∧ q.owned = p.owned ∧
      q.threads = before ++ [] :: after := by
  match jobs with
  | [] => exact ⟨p, reachable, rfl, rfl, next⟩
  | job :: rest =>
    -- What the section leaves weighs less than the job, so that it can be done to its end too.
    have turned := reachable.step (.turn next)
    obtain ⟨q, reached, world, owned, threads⟩ := turned.finish rfl
    refine ⟨q, reached, ?_, owned, threads⟩
    have first := Job.complete_eq_perform p.world job
    calc
      q.world = Job.completeAll (job.perform p.world).1 ((job.perform p.world).2 ++ rest) := world
      _ = Job.completeAll (job.complete p.world) rest := by
        rw [Job.completeAll_append, first]
      _ = Job.completeAll p.world (job :: rest) := rfl
termination_by Job.weights jobs
decreasing_by
  have less := Job.weights_perform_lt p.world job
  simp only [Job.weights_append, Job.weights]
  omega

/-! ## Guards and phases -/

theorem Reachable.guarded (reachable : Reachable p) : p.Guarded := by
  induction reachable with
  | start => exact guarded_start
  | step reached step ih =>
    obtain ⟨deed, does⟩ := exists_does_iff.mpr step
    exact does.guarded reached.sound ih

/-- A receiver whose guard has been taken is released, or the thread that took it has yet to
release it. -/
def Followed (p : Program V) : Prop :=
  ∀ id r, p.world.receivers[id]? = some r → r.isDisposed = true →
    r.phase = .released ∨ Job.unroot id ∈ p.threads.flatten

theorem followed_start : (start : Program V).Followed := by
  simp [Followed, start, World.empty]

theorem Moves.released {deed : Deed} (moves : Moves id deed r s) (released : r.phase = .released) :
    s.phase = .released := by
  cases moves with
  | takesOut _ _ live _ _ _ _ => exact absurd released live
  | givesBack _ _ _ _ _ phase _ => rw [phase, released, ite_self]
  | idle _ _ _ phase _ => rw [phase, released]
  | unrooted _ _ _ _ phase _ => exact phase

/-- The entry of a receiver is taken out when the receiver is released. -/
theorem phase_unroot {world : World V} (stored : (world.unroot id).receivers[id]? = some s) :
    s.phase = .released := by
  cases found : world.receivers[id]? with
  | none =>
    rw [World.unroot, found] at stored
    simp only [found] at stored
    contradiction
  | some r =>
    have own : ∀ (next : Receiver V) {later : World V}, next.phase = .released →
        later.receivers = (world.setReceiver id next).receivers →
        later.receivers[id]? = some s → s.phase = .released := by
      intro next later released changed stored
      rw [changed, World.receivers_setReceiver_self found] at stored
      rw [← Option.some.inj stored, released]
    simp only [World.unroot, found] at stored
    split at stored
    · split at stored
      · refine own { r with phase := .released, count := 0, holders := r.holders - 1 } rfl ?_ stored
        split <;> rfl
      · exact own { r with phase := .released } rfl rfl stored
    · exact own { r with phase := .released } rfl rfl stored

/-- Where one receiver has changed but for its guard, the guards are as before. -/
theorem exists_disposed_of_set {world later : World V} {own : ReceiverId} {a next : Receiver V}
    (found : world.receivers[own]? = some a)
    (changed : later.receivers = (world.setReceiver own next).receivers)
    (guard : next.guard = a.guard) (stored : later.receivers[id]? = some s)
    (disposed : s.isDisposed = true) :
    ∃ r, world.receivers[id]? = some r ∧ r.isDisposed = true := by
  rw [changed, World.receivers_setReceiver found] at stored
  split at stored
  · next here =>
    obtain rfl := Option.some.inj stored
    rw [Receiver.isDisposed, guard] at disposed
    exact ⟨a, by rw [here, found], disposed⟩
  · exact ⟨s, stored, disposed⟩

/-- The section that takes a guard leaves the receiver to be released. -/
theorem disposed_of_perform {world : World V} (rooted : world.Rooted) (job : Job)
    (stored : (job.perform world).1.receivers[id]? = some s) (disposed : s.isDisposed = true) :
    (∃ r, world.receivers[id]? = some r ∧ r.isDisposed = true) ∨
      Job.unroot id ∈ (job.perform world).2 := by
  obtain ⟨same, _⟩ | ⟨own, a, next, found, changed, makes⟩ := job.perform_cases rooted
  · exact .inl ⟨s, by rw [← same, stored], disposed⟩
  · rw [changed, World.receivers_setReceiver found] at stored
    split at stored
    · next here =>
      obtain rfl := Option.some.inj stored
      obtain taken | left := makes.isDisposed_iff.mp disposed
      · exact .inl ⟨a, by rw [here, found], taken⟩
      · exact .inr (here ▸ left)
    · exact .inl ⟨s, stored, disposed⟩

/-- No step takes a guard without leaving the receiver to be released. -/
theorem Step.disposed (sound : p.Sound) (step : Step p q)
    (stored : q.world.receivers[id]? = some s) (disposed : s.isDisposed = true) :
    (∃ r, p.world.receivers[id]? = some r ∧ r.isDisposed = true) ∨
      Job.unroot id ∈ q.threads.flatten := by
  cases step with
  | create value options registry hooked _ _ =>
    rw [Program.create, World.receivers_create] at stored
    split at stored
    · obtain rfl := Option.some.inj stored
      contradiction
    · exact .inl ⟨s, stored, disposed⟩
  | clone owned =>
    obtain ⟨r, found⟩ := sound.exists_of_owned owned
    have changed := congrArg World.receivers (World.hold_eq found)
    exact .inl (exists_disposed_of_set found changed rfl stored disposed)
  | drop _ | dispose _ => exact .inl ⟨s, stored, disposed⟩
  | retain owned =>
    obtain ⟨r, found⟩ := sound.exists_of_owned owned
    obtain ⟨_, _, same⟩ | ⟨_, _, changed⟩ := retain_cases sound found
    · exact .inl ⟨s, by rwa [same] at stored, disposed⟩
    · exact .inl (exists_disposed_of_set found changed rfl stored disposed)
  | release owned =>
    obtain ⟨r, found⟩ := sound.exists_of_owned owned
    obtain ⟨_, _, same⟩ | ⟨_, _, changed⟩ := release_cases sound found
    · exact .inl ⟨s, by rwa [same] at stored, disposed⟩
    · exact .inl (exists_disposed_of_set found changed rfl stored disposed)
  | lookup registry expected handle =>
    obtain ⟨_, same⟩ | ⟨own, a, found, _, _, changed⟩ := lookup_cases sound registry expected handle
    · exact .inl ⟨s, by rwa [same] at stored, disposed⟩
    · exact .inl (exists_disposed_of_set found changed rfl stored disposed)
  | @turn before after job rest next =>
    obtain taken | left := disposed_of_perform sound.rooted job stored disposed
    · exact .inl taken
    · exact .inr (mem_turn_iff.mpr (.inr (.inl (.inl left))))

theorem Followed.step (sound : p.Sound) (guarded : p.Guarded) (followed : p.Followed)
    (step : Step p q) : q.Followed := by
  intro id s stored disposed
  obtain ⟨r, found, taken⟩ | left := step.disposed sound stored disposed
  · obtain ⟨deed, does⟩ := exists_does_iff.mpr step
    obtain ⟨next, kept, moves⟩ := (does.change sound guarded).exists_moves found
    rw [stored] at kept
    obtain rfl := Option.some.inj kept
    obtain released | waits := followed id r found taken
    · exact .inl (moves.released released)
    · obtain waits | done := (does.leaves sound).waits waits
      · exact .inr waits
      · rw [done] at stored
        exact .inl (phase_unroot stored)
  · exact .inr left

theorem Reachable.followed (reachable : Reachable p) : p.Followed := by
  induction reachable with
  | start => exact followed_start
  | step reached step ih => exact ih.step reached.sound reached.guarded step

/-! ## Nothing left to do -/

/-- A state that a program can come to, in which no thread has anything left to do: every operation
that was begun has come to its end. -/
structure AtRest (p : Program V) : Prop where
  reachable : Reachable p
  done : p.threads.flatten = []

theorem atRest_start : (start : Program V).AtRest := ⟨.start, rfl⟩

theorem AtRest.released_of_disposed (rest : p.AtRest) (found : p.world.receivers[id]? = some r)
    (disposed : r.isDisposed = true) : r.phase = .released := by
  obtain released | waits := rest.reachable.followed id r found disposed
  · exact released
  · rw [rest.done] at waits
    contradiction

/-- A receiver that native code holds is whole: it is active, its disposal has not begun, its block
has not been freed, and something refers to it. -/
theorem AtRest.whole (rest : p.AtRest) (found : p.world.receivers[id]? = some r)
    (held : 1 ≤ r.count) : r.phase = .active ∧ r.isDisposed = false ∧ r.blockLive = true ∧
      1 ≤ r.holders := by
  have sound := rest.reachable.sound
  have active := (sound.rooted.active_iff id r found).mp held
  refine ⟨active, ?_, sound.rooted.live found held, ?_⟩
  · cases disposed : r.isDisposed with
    | false => rfl
    | true =>
      rw [rest.released_of_disposed found disposed] at active
      contradiction
  · have references := sound.held id
    rw [World.tally_eq found, World.tally_eq found, Receiver.roots_of_held held] at references
    omega

/-- What a call leaves to do can be done, and then the program is at rest again. -/
theorem AtRest.finish (rest : p.AtRest) (step : Step p q) {jobs : List Job}
    (threads : q.threads = p.threads ++ [jobs]) :
    ∃ s, AtRest s ∧ s.world = Job.completeAll q.world jobs ∧ s.owned = q.owned := by
  obtain ⟨s, reached, world, owned, left⟩ := (rest.reachable.step step).finish threads
  refine ⟨s, ⟨reached, ?_⟩, world, owned⟩
  rw [left]
  simp [rest.done]

/-- A step that leaves nothing to do. -/
theorem AtRest.step (rest : p.AtRest) (step : Step p q) (threads : q.threads = p.threads) :
    q.AtRest :=
  ⟨rest.reachable.step step, by rw [threads, rest.done]⟩

theorem AtRest.lookup (rest : p.AtRest) (registry : RegistryId) (expected : V → Bool)
    (handle : Handle) :
    ∃ q, AtRest q ∧ q.world = (p.world.lookup registry expected handle).2 := by
  have step : Step p (p.lookup registry expected handle) := .lookup registry expected handle
  rw [World.lookup_eq]
  rcases settled : p.world.lookupSection registry expected handle with
    ⟨fault | ⟨id, last, removed⟩, world⟩
  · refine ⟨_, rest.step step ?_, ?_⟩ <;> simp only [Program.lookup, settled]
  · have threads : (p.lookup registry expected handle).threads =
        p.threads ++ [releaseJobs id last removed] := by simp only [Program.lookup, settled]
    obtain ⟨q, again, world, _⟩ := rest.finish step threads
    refine ⟨q, again, ?_⟩
    simpa only [Program.lookup, settled] using world

/-- Every operation on a receiver to which managed code has a reference, from its beginning to its
end, leaves the program at rest. -/
theorem AtRest.operations (rest : p.AtRest) (owned : 0 < p.owned id) :
    (∃ q, AtRest q ∧ q.world = (p.world.retain id).2 ∧ q.owned = p.owned) ∧
      (∃ q, AtRest q ∧ q.world = (p.world.release id).2 ∧ q.owned = p.owned) ∧
      (∃ q, AtRest q ∧ q.world = (p.world.dispose id).2 ∧ q.owned = p.owned) ∧
      ∃ q, AtRest q ∧ q.world = p.world.letGo id ∧ q.owned = lose p.owned id := by
  refine ⟨?_, ?_, ?_, ?_⟩
  · rw [World.retain_eq]
    rcases settled : p.world.retainSection id with ⟨fault | ⟨count, displaced⟩, world⟩
    · refine ⟨_, rest.step (.retain owned) ?_, ?_, ?_⟩ <;> simp only [Program.retain, settled]
    · have threads : (p.retain id).threads = p.threads ++ [Job.ofItem displaced] := by
        simp only [Program.retain, settled]
      have called := rest.finish (.retain owned) threads
      simpa only [Program.retain, settled] using called
  · rw [World.release_eq]
    rcases settled : p.world.releaseSection (p.world.registryOf id) id with
      ⟨fault | ⟨last, removed⟩, world⟩
    · refine ⟨_, rest.step (.release owned) ?_, ?_, ?_⟩ <;> simp only [Program.release, settled]
    · have threads : (p.release id).threads = p.threads ++ [releaseJobs id last removed] := by
        simp only [Program.release, settled]
      have called := rest.finish (.release owned) threads
      simpa only [Program.release, settled] using called
  · exact rest.finish (.dispose owned) rfl
  · exact rest.finish (.drop owned) rfl

end Program

end Bindery.Lifetime
