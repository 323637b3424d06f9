import Bindery.Proofs.Lifetime.Runs

/-! # The books of a run

What native code holds of a receiver is what it has taken out less what it has given back, until the
guard of the receiver is taken; and once it holds nothing more it never will again. Main statement:
`accounts_of_run`, for every run and every receiver in it.
-/

namespace Bindery.Lifetime.Program

variable {V : Type} {p q : Program V} {deed : Deed} {id : ReceiverId} {r s : Receiver V}
  {trace : List (Deed × Program V)}

/-- How many references to a receiver were taken out. -/
def taken (trace : List (Deed × Program V)) (id : ReceiverId) : Nat :=
  trace.countP fun moment => moment.1.takesOut id

/-- How many references to a receiver were given back. -/
def given (trace : List (Deed × Program V)) (id : ReceiverId) : Nat :=
  trace.countP fun moment => moment.1.givesBack id

/-- How often a reference was given back that was the only one. -/
def endings (trace : List (Deed × Program V)) (id : ReceiverId) : Nat :=
  trace.countP fun moment =>
    moment.1.givesBack id && moment.2.world.tally Receiver.count id == 0

theorem taken_concat (trace : List (Deed × Program V)) (deed : Deed) (q : Program V)
    (id : ReceiverId) :
    taken (trace ++ [(deed, q)]) id = taken trace id + (deed.takesOut id).toNat := by
  simp only [taken, List.countP_append, List.countP_singleton]
  cases deed.takesOut id <;> rfl

theorem given_concat (trace : List (Deed × Program V)) (deed : Deed) (q : Program V)
    (id : ReceiverId) :
    given (trace ++ [(deed, q)]) id = given trace id + (deed.givesBack id).toNat := by
  simp only [given, List.countP_append, List.countP_singleton]
  cases deed.givesBack id <;> rfl

theorem endings_concat_of_not (trace : List (Deed × Program V)) (q : Program V)
    (kept : deed.givesBack id = false) : endings (trace ++ [(deed, q)]) id = endings trace id := by
  simp only [endings, List.countP_append, List.countP_singleton, kept, Bool.false_and,
    Bool.false_eq_true, if_false, Nat.add_zero]

theorem endings_concat_of_givesBack (trace : List (Deed × Program V))
    (gives : deed.givesBack id = true) (stored : q.world.receivers[id]? = some s) :
    endings (trace ++ [(deed, q)]) id = endings trace id + if s.count = 0 then 1 else 0 := by
  simp only [endings, List.countP_append, List.countP_singleton, gives, World.tally_eq stored,
    Bool.true_and, beq_iff_eq]

/-- What the trace of a run says of a receiver that the run has come to have. -/
structure Books (trace : List (Deed × Program V)) (id : ReceiverId) (r : Receiver V) : Prop where
  balance : r.isDisposed = false → r.count + given trace id = taken trace id
  once : endings trace id ≤ 1
  open_of_unreleased : r.phase ≠ .released → endings trace id = 0

/-- The books of a receiver stay in order with all that a step can do to it. -/
theorem Books.concat (books : Books trace id r) (sound : p.Sound)
    (found : p.world.receivers[id]? = some r) (stored : q.world.receivers[id]? = some s)
    (moves : Moves id deed r s) : Books (trace ++ [(deed, q)]) id s := by
  have balance : s.isDisposed = false →
      s.count + given (trace ++ [(deed, q)]) id = taken (trace ++ [(deed, q)]) id := by
    intro free
    have untaken : r.isDisposed = false :=
      Bool.eq_false_iff.mpr fun disposed => Bool.eq_false_iff.mp free (moves.isDisposed disposed)
    have count := moves.count_eq fun disposed => absurd disposed (Bool.eq_false_iff.mp untaken)
    have before := books.balance untaken
    rw [taken_concat, given_concat]
    omega
  have once := books.once
  have opened := books.open_of_unreleased
  cases moves with
  | takesOut _ gives live _ _ _ _ =>
    have ends := endings_concat_of_not trace q gives
    exact ⟨balance, by rwa [ends], fun _ => by rw [ends, opened live]⟩
  | givesBack _ gives held _ count phase _ =>
    have ends := endings_concat_of_givesBack trace gives stored
    -- Native code holds the receiver, so that none of its references was the only one before.
    have none := opened fun released => by
      have := sound.rooted.count_of_released found released
      omega
    refine ⟨balance, ?_, fun unreleased => ?_⟩
    · rw [ends, none]
      split <;> omega
    · rw [ends, none, if_neg]
      intro last
      exact unreleased (by rw [phase, if_pos (by omega)])
  | idle quiet _ _ phase _ =>
    have ends := endings_concat_of_not trace q quiet.2
    exact ⟨balance, by rwa [ends], fun unreleased => by rw [ends, opened (by rwa [← phase])]⟩
  | unrooted quiet _ _ _ phase _ =>
    have ends := endings_concat_of_not trace q quiet.2
    exact ⟨balance, by rwa [ends], fun unreleased => absurd phase unreleased⟩

/-- A trace says nothing of a receiver that was not created, and keeps the books of all others. -/
theorem Run.books (run : Run start trace p) :
    (∀ id, p.world.receivers[id]? = none →
      taken trace id = 0 ∧ given trace id = 0 ∧ endings trace id = 0) ∧
    ∀ id r, p.world.receivers[id]? = some r → Books trace id r := by
  induction run with
  | nil =>
    refine ⟨fun _ _ => ⟨rfl, rfl, rfl⟩, fun id r found => ?_⟩
    simp [start, World.empty] at found
  | @concat trace deed p q run does ih =>
    obtain ⟨unseen, books⟩ := ih
    obtain ⟨sound, guarded⟩ := run.keeps sound_start guarded_start
    have change := does.change sound guarded
    have nothing : ∀ id, p.world.receivers[id]? = none → taken (trace ++ [(deed, q)]) id = 0 ∧
        given (trace ++ [(deed, q)]) id = 0 ∧ endings (trace ++ [(deed, q)]) id = 0 := by
      intro id none
      obtain ⟨takes, gives, ends⟩ := unseen id none
      obtain ⟨quiet, _⟩ := change.of_none none
      rw [taken_concat, given_concat, endings_concat_of_not trace q quiet.2, quiet.1, quiet.2]
      exact ⟨takes, gives, ends⟩
    constructor
    · intro id none
      refine nothing id ?_
      cases found : p.world.receivers[id]? with
      | none => rfl
      | some r =>
        obtain ⟨s, stored, _⟩ := change.exists_moves found
        rw [none] at stored
        contradiction
    · intro id s stored
      cases found : p.world.receivers[id]? with
      | none =>
        obtain ⟨takes, gives, ends⟩ := nothing id found
        obtain ⟨count, _, _⟩ := (change.of_none found).2 s stored
        exact ⟨fun _ => by rw [takes, gives, count], by rw [ends]; exact Nat.zero_le _,
          fun _ => ends⟩
      | some r =>
        obtain ⟨next, same, moves⟩ := change.exists_moves found
        rw [stored] at same
        obtain rfl := Option.some.inj same
        exact (books id r found).concat sound found stored moves

/-- A release says whether nothing is held any more. -/
theorem Does.last_iff {last : Bool} (sound : p.Sound) (does : Does p (.release id (.ok last)) q) :
    last = true ↔ q.world.tally Receiver.count id = 0 := by
  generalize seen : Deed.release id (.ok last) = deed at does
  cases does with
  | release owned =>
    obtain ⟨rfl, answered⟩ := Deed.release.inj seen
    obtain ⟨r, found⟩ := sound.exists_of_owned owned
    obtain ⟨_, refused, _⟩ | ⟨held, ⟨removed, settled⟩, changed⟩ := release_cases sound found
    · rw [refused] at answered
      contradiction
    · rw [settled] at answered
      obtain rfl : last = (r.count == 1) := Except.ok.inj answered
      rw [World.tally_congr changed, World.tally_setReceiver found, if_pos rfl, beq_iff_eq]
      change r.count = 1 ↔ r.count - 1 = 0
      omega
  | _ => contradiction

/-- A receiver that is released stays so, and is refused from then on. -/
theorem Run.released (run : Run p trace q) (sound : p.Sound) (guarded : p.Guarded)
    (found : p.world.receivers[id]? = some r) (released : r.phase = .released) :
    (∃ s, q.world.receivers[id]? = some s ∧ s.handle = r.handle ∧ s.phase = .released ∧
        s.count = 0) ∧
      ∀ moment ∈ trace, moment.1.Refused id r.handle := by
  induction run with
  | nil =>
    exact ⟨⟨r, found, rfl, released, sound.rooted.count_of_released found released⟩, nofun⟩
  | concat run does ih =>
    obtain ⟨⟨a, stored, address, gone, none⟩, refused⟩ := ih
    obtain ⟨sound, guarded⟩ := run.keeps sound guarded
    obtain ⟨s, kept, moves⟩ := (does.change sound guarded).exists_moves stored
    have same := moves.handle_eq
    constructor
    · refine ⟨s, kept, same.trans address, ?_⟩
      cases moves with
      | takesOut _ _ live _ _ _ _ => exact absurd gone live
      | givesBack _ _ held _ _ _ _ => omega
      | idle _ _ count phase _ => exact ⟨phase.trans gone, count.trans none⟩
      | unrooted _ _ _ count phase _ => exact ⟨phase, count⟩
    · intro moment member
      obtain old | new := List.mem_append.mp member
      · exact refused moment old
      · rw [List.mem_singleton.mp new, ← address]
        exact does.refused sound stored gone

/-- A release that nothing goes before is refused, and nothing comes of it. -/
theorem Does.unbalanced {answer : Except Fault Bool} (sound : p.Sound)
    (does : Does p (.release id answer) q) (found : p.world.receivers[id]? = some r)
    (constructed : r.phase = .constructed) : answer = .error (.unbalanced r.handle) ∧ q = p := by
  generalize seen : Deed.release id answer = deed at does
  cases does with
  | release owned =>
    obtain ⟨rfl, rfl⟩ := Deed.release.inj seen
    obtain ⟨_, refused, same⟩ | ⟨held, _⟩ := release_cases sound found
    · rw [refused, same, constructed]
      exact ⟨rfl, rfl⟩
    · have active := (sound.rooted.active_iff id r found).mp held
      rw [constructed] at active
      contradiction
  | _ => contradiction

/-- Whatever threads do and in whatever order, of every receiver of a run: until its guard is taken,
its count is what was taken out less what was given back; at most one release or lookup gives the
last reference back, and a release answers whether it is that one; once released it stays so,
without a reference, and is refused from then on; and before native code holds it, a release is
refused and changes nothing. -/
theorem accounts_of_run (run : Run start trace p) (found : p.world.receivers[id]? = some r) :
    (r.isDisposed = false → r.count + given trace id = taken trace id) ∧
      endings trace id ≤ 1 ∧
      (∀ last after, (Deed.release id (.ok last), after) ∈ trace →
        (last = true ↔ after.world.tally Receiver.count id = 0)) ∧
      (r.phase = .released → r.count = 0 ∧ ∀ later q, Run p later q →
        (∃ s, q.world.receivers[id]? = some s ∧ s.handle = r.handle ∧ s.phase = .released ∧
            s.count = 0) ∧
          ∀ moment ∈ later, moment.1.Refused id r.handle) ∧
      (r.phase = .constructed → ∀ answer q, Does p (.release id answer) q →
        answer = .error (.unbalanced r.handle) ∧ q = p) := by
  obtain ⟨sound, guarded⟩ := run.keeps sound_start guarded_start
  have books := run.books.2 id r found
  refine ⟨books.balance, books.once, ?_, ?_, ?_⟩
  · intro last after member
    obtain ⟨earlier, before, started, does⟩ := run.exists_does member
    exact does.last_iff (started.keeps sound_start guarded_start).1
  · intro released
    refine ⟨sound.rooted.count_of_released found released, fun later q more => ?_⟩
    exact more.released sound guarded found released
  · intro constructed answer q does
    exact does.unbalanced sound found constructed

/-- A receiver is retained, passed to native code, looked up and released: two references were taken
out, two were given back, and one of those was the last one. -/
theorem accounts_of_run_spent : ∃ (trace : List (Deed × Program Nat)) (p : Program Nat)
    (r : Receiver Nat), Run start trace p ∧ p.world.receivers[0]? = some r ∧
      r.phase = .released ∧ taken trace 0 = 2 ∧ given trace 0 = 2 ∧
      (r.isDisposed = false → r.count + given trace 0 = taken trace 0) ∧
      endings trace 0 ≤ 1 ∧
      (∀ last after, (Deed.release 0 (.ok last), after) ∈ trace →
        (last = true ↔ after.world.tally Receiver.count 0 = 0)) ∧
      (r.phase = .released → r.count = 0 ∧ ∀ later q, Run p later q →
        (∃ s, q.world.receivers[0]? = some s ∧ s.handle = r.handle ∧ s.phase = .released ∧
            s.count = 0) ∧
          ∀ moment ∈ later, moment.1.Refused 0 r.handle) ∧
      (r.phase = .constructed → ∀ answer q, Does p (.release 0 answer) q →
        answer = .error (.unbalanced r.handle) ∧ q = p) := by
  have created := Run.nil.concat (Does.create (p := (start : Program Nat)) 7 ⟨false, true⟩
    globalRegistry true (show Handle.isNull ⟨16⟩ = false from rfl) (by simp [start, World.empty]))
  have retained := created.concat (.retain (show 0 < Program.owned _ 0 from by decide))
  have passed := retained.concat (.toNative (show 0 < Program.owned _ 0 from by decide))
  have found := passed.concat (.lookup globalRegistry (fun _ => true) ⟨16⟩)
  have spent := found.concat (.release (show 0 < Program.owned _ 0 from by decide))
  exact ⟨_, _, _, spent, rfl, rfl, rfl, rfl, accounts_of_run spent rfl⟩

end Bindery.Lifetime.Program
