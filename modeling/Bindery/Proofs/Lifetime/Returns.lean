import Bindery.Proofs.Lifetime.Callbacks
import Bindery.Proofs.Lifetime.Undisturbed

/-! # Proxies that give references to one receiver back

The callbacks of proxies may release a receiver. What the program does along a run with proxies is a
run of its own (`Run.spares`), whose books say what the receiver has. Where one reference was passed
to native code for each proxy, none of them is missing when a callback gives it back
(`PassedOnce.succeeds`). Main statement: each proxy gives its reference back once, and the last of
them releases the receiver (`returns_of_run`).
-/

namespace Bindery.Lifetime

variable {V : Type} {n : Nat} {a : Attempt}

/-- What the program does with a step. -/
def Act.deed? : Act → Option Deed
  | .released _ id answer => some (.release id answer)
  | .did deed => some deed
  | .disposes _ => some .other
  | _ => none

/-- Whether a step calls a callback. -/
def Act.isCall : Act → Bool
  | called _ _ => true
  | _ => false

/-- Whether a step does something with a receiver, other than to pass it to native code or to give a
reference to it back in a callback. -/
def Act.touches (id : ReceiverId) : Act → Bool
  | did (.toNative _ _) => false
  | did deed => deed.takesOut id || deed.givesBack id
  | disposes own => own == id
  | _ => false

theorem Act.givesBack_of_touches {id : ReceiverId} {deed : Deed}
    (untouched : (did deed).touches id = false) : deed.givesBack id = false := by
  cases deed with
  | retain _ _ | toNative _ _ | other => rfl
  | release _ _ | lookup _ => exact untouched

/-- Where nothing is left to do, nobody has just begun to dispose a receiver. -/
theorem Program.ne_dispose {p q : Program V} (idle : q.threads.flatten = []) (id : ReceiverId) :
    q ≠ p.dispose id := by
  rintro rfl
  simp [Program.dispose] at idle

/-- A release of a receiver that native code holds succeeds. -/
theorem Program.Does.release_succeeds {p q : Program V} {id : ReceiverId}
    {answer : Except Fault Bool} (sound : p.Sound) (does : Does p (.release id answer) q)
    (held : ∀ r, p.world.receivers[id]? = some r → 1 ≤ r.count) : ∃ last, answer = .ok last := by
  generalize seen : Deed.release id answer = deed at does
  cases does with
  | release owned =>
    obtain ⟨rfl, rfl⟩ := Deed.release.inj seen
    obtain ⟨r, found⟩ := sound.exists_of_owned owned
    have count := held r found
    obtain ⟨none, _⟩ | ⟨_, ⟨removed, settled⟩, _⟩ := release_cases sound found
    · omega
    · exact ⟨_, by rw [settled]; rfl⟩
  | _ => contradiction

namespace Owners

variable {s t m : Owners V} {act : Act} {trace early late : List (Act × Owners V)}
  {id : ReceiverId} {r : Receiver V}

/-! ## The run of the program -/

/-- What the program does along a trace. -/
def deeds (trace : List (Act × Owners V)) : List (Deed × Program V) :=
  trace.filterMap fun moment => moment.1.deed?.map fun deed => (deed, moment.2.program)

theorem deeds_concat (trace : List (Act × Owners V)) (act : Act) (s : Owners V) :
    deeds (trace ++ [(act, s)]) =
      match act.deed? with
      | some deed => deeds trace ++ [(deed, s.program)]
      | none => deeds trace := by
  rw [deeds, List.filterMap_append, ← deeds]
  cases seen : act.deed? <;> simp [seen]

theorem mem_deeds {deed : Deed} (member : (act, s) ∈ trace) (does : act.deed? = some deed) :
    (deed, s.program) ∈ deeds trace :=
  List.mem_filterMap.mpr ⟨(act, s), member, by rw [does]; rfl⟩

/-- Nobody begins to dispose a receiver. -/
def Spares (id : ReceiverId) (trace : List (Act × Owners V)) : Prop :=
  ∀ moment ∈ trace, moment.1 ≠ .disposes id

/-- The program runs on its own, and disposes what the run disposes. -/
theorem Run.spares (run : Run s trace t) (spares : Spares id trace) :
    Program.SparingRun id s.program (deeds trace) t.program := by
  induction run with
  | nil => exact .nil
  | @concat trace act t next run step ih =>
    have before := ih fun moment member => spares moment (List.mem_append_left _ member)
    have now := spares (act, next) (by simp)
    rw [deeds_concat]
    cases step with
    | release next does => exact before.concat does nofun
    | program does other => exact before.concat does fun _ => other id
    | @disposeReceiver own owned =>
      refine before.concat (.dispose owned) fun _ same => now ?_
      have jobs := congrArg Program.threads same
      simp only [Program.dispose, List.append_cancel_left_eq, List.cons.injEq, Job.dispose.injEq,
        and_true] at jobs
      rw [jobs]
    | _ => exact before

/-! ## References that are given back -/

section Counts

variable (about : Nat → Bool)

/-- How many disposals are in a callback that has yet to give a reference back. -/
def inside (disposals : List Disposal) : Nat :=
  disposals.countP fun d => about d.proxy && d.stage.isInside

/-- How often a callback has given a reference back, or has tried to. -/
def returns (trace : List (Act × Owners V)) : Nat := trace.countP fun moment =>
  match moment.1 with
  | .released n _ _ => about n
  | _ => false

end Counts

/-- How many proxies were constructed. -/
def made (attempts : List Attempt) : Nat := attempts.countP fun a => a.proxy?.isSome

/-- The proxies that come to be there and whose guards have not been taken yet. -/
def outstanding (attempts later : List Attempt) : Nat :=
  (later.mapIdx fun n b => b.proxy?.isSome && !attempts[n]?.any Attempt.isTaken).count true

/-- All callbacks give a reference to one receiver back. -/
def AllRelease (id : ReceiverId) (attempts : List Attempt) : Prop :=
  ∀ a ∈ attempts, a.proxy?.isSome = true → a.releases = some id

theorem inside_turn (about : Nat → Bool) (before after : List Disposal) (d : Disposal) :
    inside about (before ++ d :: after) =
      inside about (before ++ after) + (about d.proxy && d.stage.isInside).toNat :=
  countP_turn _ before after d

theorem returns_concat (about : Nat → Bool) (trace : List (Act × Owners V)) (act : Act)
    (s : Owners V) : returns about (trace ++ [(act, s)]) =
      returns about trace + match act with
        | .released n _ _ => (about n).toNat
        | _ => 0 := by
  rw [returns, countP_turn, List.append_nil]
  cases act <;> rfl

theorem AllRelease.of_grows {attempts later : List Attempt} (release : AllRelease id later)
    (grows : Grows attempts later) : AllRelease id attempts := by
  intro a member there
  obtain ⟨n, found⟩ := List.mem_iff_getElem?.mp member
  obtain ⟨b, stored, becomes⟩ := grows n a found
  rw [← becomes.releases]
  exact release b (List.mem_of_getElem? stored) (becomes.made.trans there)

/-- A callback that was called has given its reference back, or has yet to do so. -/
theorem Run.callbacks_eq (run : Run start trace s) (release : AllRelease id s.attempts)
    (about : Nat → Bool) :
    callbacks about trace = inside about s.disposals + returns about trace := by
  induction run with
  | nil => rfl
  | @concat trace act s t run step ih =>
    have before := ih (release.of_grows step.grows)
    rw [callbacks_concat, returns_concat]
    cases step with
    | @dispose n a proxy _ _ _ | @drop n a proxy _ _ _ _ =>
      simp only [Owners.disposing, inside_turn, List.append_nil, Stage.isInside_opening,
        Bool.and_false, Bool.toNat_false]
      exact before
    | @callBack first second n drops handle a next stands =>
      obtain ⟨b, found, taken, _⟩ := run.orderly.taken ⟨n, drops, .due handle⟩ (by simp [next])
      rw [stands] at found
      obtain rfl := Option.some.inj found
      have releases := release a (List.mem_of_getElem? stands) (Attempt.made_of_isTaken taken)
      rw [next, inside_turn] at before
      rw [releases, inside_turn]
      simp only [Stage.following, Stage.isInside, Bool.and_false, Bool.and_true, Bool.toNat_false]
        at before ⊢
      omega
    | release next does =>
      rw [next, inside_turn] at before
      rw [inside_turn]
      simp only [Stage.isInside, Bool.and_false, Bool.and_true, Bool.toNat_false] at before ⊢
      omega
    | ends next =>
      rw [next, inside_turn] at before
      simp only [Stage.isInside, Bool.and_false, Bool.toNat_false] at before ⊢
      exact before
    | _ => exact before

theorem inside_le_past (about : Nat → Bool) (disposals : List Disposal) :
    inside about disposals ≤ past about disposals := by
  refine List.countP_mono_left fun d _ held => ?_
  simp only [Bool.and_eq_true] at held ⊢
  refine ⟨held.1, ?_⟩
  cases stage : d.stage <;> simp_all [Stage.isInside, Stage.isPast]

theorem Grows.of_cons {a b : Attempt} {attempts later : List Attempt}
    (grows : Grows (a :: attempts) (b :: later)) : a.Becomes b ∧ Grows attempts later := by
  constructor
  · obtain ⟨c, found, becomes⟩ := grows 0 a rfl
    obtain rfl := Option.some.inj found
    exact becomes
  · exact fun n c found => grows (n + 1) c found

/-- The proxies that come to be there are those whose guards are taken already, and those that are
outstanding. -/
theorem made_eq {attempts later : List Attempt} (grows : Grows attempts later) :
    made later = guards (fun _ => true) attempts + outstanding attempts later := by
  induction later generalizing attempts with
  | nil =>
    cases attempts with
    | nil => rfl
    | cons a attempts =>
      obtain ⟨_, found, _⟩ := grows 0 a rfl
      contradiction
  | cons b later ih =>
    have counted : made (b :: later) = made later + b.proxy?.isSome.toNat :=
      countP_turn _ [] later b
    cases attempts with
    | nil =>
      have rest : made later = guards (fun _ => true) [] + outstanding [] later := ih nofun
      have listed : outstanding [] (b :: later) = b.proxy?.isSome.toNat + outstanding [] later := by
        rw [outstanding, List.mapIdx_cons, count_true_cons, List.getElem?_nil, Option.any_none,
          Bool.not_false, Bool.and_true]
        rfl
      rw [counted, rest, listed]
      omega
    | cons a attempts =>
      obtain ⟨becomes, more⟩ := grows.of_cons
      have rest : _ = guards _ attempts + outstanding attempts later := ih more
      have entry : b.proxy?.isSome.toNat =
          a.isTaken.toNat + (b.proxy?.isSome && !a.isTaken).toNat := by
        cases taken : a.isTaken with
        | true => rw [becomes.made, Attempt.made_of_isTaken taken]; rfl
        | false => rw [Bool.not_false, Bool.and_true, Bool.toNat_false, Nat.zero_add]
      have listed : outstanding (a :: attempts) (b :: later) =
          (b.proxy?.isSome && !a.isTaken).toNat + outstanding attempts later := by
        rw [outstanding, List.mapIdx_cons, count_true_cons]
        rfl
      rw [counted, rest, entry, listed, guards_cons, Bool.true_and]
      omega

/-- There is a proxy. -/
def Has (s : Owners V) (n : Nat) : Prop := ∃ a, s.attempts[n]? = some a ∧ a.proxy?.isSome = true

/-- The callback of a proxy has given a reference back, or has tried to. -/
def HasReturned (trace : List (Act × Owners V)) (n : Nat) : Prop :=
  ∃ (id : ReceiverId) (answer : Except Fault Bool) (t : Owners V),
    (.released n id answer, t) ∈ trace

theorem returns_pos_iff : 1 ≤ returns (· == n) trace ↔ HasReturned trace n := by
  rw [returns, Nat.one_le_iff_ne_zero, ← Nat.pos_iff_ne_zero, List.countP_pos_iff]
  constructor
  · rintro ⟨⟨act, t⟩, member, counted⟩
    cases act with
    | released k id answer =>
      obtain rfl : k = n := beq_iff_eq.mp counted
      exact ⟨id, answer, t, member⟩
    | _ => contradiction
  · rintro ⟨id, answer, t, member⟩
    exact ⟨_, member, beq_self_eq_true n⟩

/-- There is nothing of a kind on its way when there is nothing of it for any proxy. -/
theorem countP_eq_zero_iff_each (counted : Disposal → Bool) (disposals : List Disposal) :
    disposals.countP (fun d => true && counted d) = 0 ↔
      ∀ n, disposals.countP (fun d => d.proxy == n && counted d) = 0 := by
  simp only [List.countP_eq_zero, Bool.true_and, Bool.and_eq_true, beq_iff_eq, not_and]
  constructor
  · exact fun none n d member _ => none d member
  · exact fun none d member => none d.proxy d member rfl

theorem outstanding_eq_zero_iff {attempts : List Attempt} :
    outstanding attempts s.attempts = 0 ↔
      ∀ n, s.Has n → attempts[n]?.any Attempt.isTaken = true := by
  rw [outstanding, List.count_eq_zero]
  constructor
  · rintro none n ⟨b, found, there⟩
    obtain ⟨bound, stands⟩ := List.getElem?_eq_some_iff.mp found
    simp only [List.mem_mapIdx, not_exists] at none
    have free := none n bound
    rw [stands, there, Bool.true_and, Bool.not_eq_true', Bool.not_eq_false] at free
    exact free
  · intro taken listed
    obtain ⟨n, bound, free⟩ := List.mem_mapIdx.mp listed
    rw [Bool.and_eq_true, Bool.not_eq_true'] at free
    have guard := taken n ⟨_, List.getElem?_eq_getElem bound, free.1⟩
    rw [free.2] at guard
    contradiction

/-- Where the guard is taken there is a proxy, and there will be. -/
theorem Run.has_of_isTaken (rest : Run m late s)
    (taken : m.attempts[n]?.any Attempt.isTaken = true) : s.Has n := by
  obtain ⟨a, found, guard⟩ := (Option.any_eq_true _ _).mp taken
  obtain ⟨b, stored, becomes⟩ := rest.grows n a found
  exact ⟨b, stored, becomes.made.trans (Attempt.made_of_isTaken guard)⟩

/-- A proxy has given its reference back when its guard is taken, by a call that has come past its
callback. -/
theorem Run.hasReturned_iff (run : Run start early m) (release : AllRelease id m.attempts) :
    HasReturned early n ↔ m.attempts[n]?.any Attempt.isTaken = true ∧
      due (· == n) m.disposals = 0 ∧ inside (· == n) m.disposals = 0 := by
  have ⟨guards_eq, callbacks_eq⟩ := run.balanced (· == n)
  have handed := run.callbacks_eq release (· == n)
  have less := inside_le_past (· == n) m.disposals
  rw [guards_one] at guards_eq
  rw [← returns_pos_iff]
  cases taken : m.attempts[n]?.any Attempt.isTaken with
  | true =>
    rw [taken, Bool.toNat_true] at guards_eq
    constructor
    · exact fun returned => ⟨rfl, by omega⟩
    · rintro ⟨_, noDue, noInside⟩
      omega
  | false =>
    rw [taken, Bool.toNat_false] at guards_eq
    constructor
    · intro returned
      omega
    · exact fun ended => absurd ended.1 nofun

/-- What has been disposed or dropped has its reference given back. -/
theorem Run.hasReturned (run : Run start early m) (release : AllRelease id m.attempts)
    (settled : IsSettled early n) : HasReturned early n := by
  have won := run.wins_of_settled settled
  have few := (run.callbacks_le_one n).1
  have callbacks_eq := (run.balanced (· == n)).callbacks_eq
  have handed := run.callbacks_eq release (· == n)
  have less := inside_le_past (· == n) m.disposals
  exact returns_pos_iff.mp (by omega)

/-- All proxies that there come to be have given their references back when as many were given back
as there come to be proxies. -/
theorem Run.returns_eq_iff (run : Run start early m) (rest : Run m late s)
    (release : AllRelease id s.attempts) :
    returns (fun _ => true) early = made s.attempts ↔ ∀ n, s.Has n → HasReturned early n := by
  have release := release.of_grows rest.grows
  have counted := made_eq rest.grows
  have ⟨guards_all, callbacks_all⟩ := run.balanced fun _ => true
  have handed_all := run.callbacks_eq release fun _ => true
  have noneDue : due (fun _ => true) m.disposals = 0 ↔ ∀ n, due (· == n) m.disposals = 0 :=
    countP_eq_zero_iff_each _ _
  have noneInside : inside (fun _ => true) m.disposals = 0 ↔
      ∀ n, inside (· == n) m.disposals = 0 := countP_eq_zero_iff_each _ _
  constructor
  · intro all n has
    have taken := outstanding_eq_zero_iff.mp (show outstanding m.attempts s.attempts = 0 by omega)
    exact (run.hasReturned_iff release).mpr
      ⟨taken n has, noneDue.mp (by omega) n, noneInside.mp (by omega) n⟩
  · intro all
    have each (n : Nat) (has : s.Has n) := (run.hasReturned_iff release).mp (all n has)
    have none := outstanding_eq_zero_iff.mpr fun n has => (each n has).1
    have idle (n : Nat) : due (· == n) m.disposals = 0 ∧ inside (· == n) m.disposals = 0 := by
      cases taken : m.attempts[n]?.any Attempt.isTaken with
      | true => exact (each n (rest.has_of_isTaken taken)).2
      | false =>
        have guards_eq := (run.balanced (· == n)).guards_eq
        have less := inside_le_past (· == n) m.disposals
        rw [guards_one, taken, Bool.toNat_false] at guards_eq
        omega
    have noDue := noneDue.mpr fun n => (idle n).1
    have noInside := noneInside.mpr fun n => (idle n).2
    omega

/-! ## One receiver -/

/-- How often a reference to a receiver was passed to native code. -/
def passes (id : ReceiverId) (trace : List (Act × Owners V)) : Nat := trace.countP fun moment =>
  match moment.1 with
  | .did (.toNative own (.ok _)) => own == id
  | _ => false

theorem passes_append (id : ReceiverId) (early late : List (Act × Owners V)) :
    passes id (early ++ late) = passes id early + passes id late :=
  List.countP_append

/-- What refuses everything is not passed to native code. -/
theorem passes_of_refused {handle : Handle}
    (refused : ∀ moment ∈ deeds trace, moment.1.Refused id handle) : passes id trace = 0 := by
  refine List.countP_eq_zero.mpr fun moment member counted => ?_
  obtain ⟨act, t⟩ := moment
  split at counted
  · next own handle seen =>
    refine absurd (refused _ (mem_deeds member (congrArg Act.deed? seen)) ?_) nofun
    exact beq_iff_eq.mp counted
  · contradiction

/-- All proxies give references to one receiver back. For each of them, one was passed to native
code before any callback was called, and nothing else was done with the receiver. -/
structure PassedOnce (id : ReceiverId) (trace : List (Act × Owners V)) (s : Owners V) : Prop where
  release : AllRelease id s.attempts
  exists_proxy : 1 ≤ made s.attempts
  passed : ∃ before after, trace = before ++ after ∧
    (∀ moment ∈ before, moment.1.isCall = false) ∧
    passes id before = made s.attempts ∧ passes id after = 0
  untouched : ∀ moment ∈ trace, moment.1.touches id = false

theorem PassedOnce.spares (once : PassedOnce id trace s) : Spares id trace := by
  intro moment member disposes
  have untouched := once.untouched moment member
  rw [disposes, Act.touches, beq_self_eq_true] at untouched
  contradiction

theorem PassedOnce.passes_total (once : PassedOnce id trace s) :
    passes id trace = made s.attempts := by
  obtain ⟨before, after, rfl, _, passed, none⟩ := once.passed
  rw [passes_append, passed, none, Nat.add_zero]

theorem countP_deeds (counted : Deed → Bool) (trace : List (Act × Owners V)) :
    (deeds trace).countP (fun moment => counted moment.1) =
      trace.countP fun moment => moment.1.deed?.any counted := by
  rw [deeds, List.countP_filterMap]
  refine List.countP_congr fun moment _ => ?_
  cases moment.1.deed? <;> rfl

/-- What is passed to native code is all that is taken out of the receiver. -/
theorem PassedOnce.taken_eq (once : PassedOnce id (early ++ late) s) :
    Program.taken (deeds early) id = passes id early := by
  rw [Program.taken, countP_deeds (Deed.takesOut id)]
  refine List.countP_congr fun moment member => ?_
  obtain ⟨act, t⟩ := moment
  cases act with
  | did deed =>
    have untouched := once.untouched _ (List.mem_append_left late member)
    cases deed with
    | retain own answer =>
      have kept : (Deed.retain own answer).takesOut id = false :=
        (Bool.or_eq_false_iff.mp untouched).1
      simp [Act.deed?, kept]
    | toNative own answer => cases answer <;> exact Iff.rfl
    | release _ _ | lookup _ | other => exact Iff.rfl
  | _ => exact Iff.rfl

/-- Only the callbacks give references to the receiver back. -/
theorem PassedOnce.given_le (once : PassedOnce id (early ++ late) s) :
    Program.given (deeds early) id ≤ returns (fun _ => true) early := by
  rw [Program.given, countP_deeds (Deed.givesBack id)]
  refine List.countP_mono_left fun moment member gives => ?_
  obtain ⟨act, t⟩ := moment
  cases act with
  | did deed =>
    have kept := Act.givesBack_of_touches (once.untouched _ (List.mem_append_left late member))
    rw [show deed.givesBack id = true from gives] at kept
    contradiction
  | released _ _ _ => rfl
  | _ => contradiction

/-- Once a callback has been called, all references have been passed to native code. -/
theorem PassedOnce.passes_eq (once : PassedOnce id (early ++ late) s)
    (called : 1 ≤ callbacks (fun _ => true) early) : passes id early = made s.attempts := by
  obtain ⟨before, after, same, uncalled, passed, none⟩ := once.passed
  obtain ⟨more, rfl, rfl⟩ | ⟨more, rfl, rfl⟩ := List.append_eq_append_iff.mp same
  · -- Nothing is called in what comes before.
    obtain ⟨⟨act, t⟩, member, counted⟩ := List.countP_pos_iff.mp called
    have kept := uncalled _ (List.mem_append_left more member)
    cases act <;> contradiction
  · rw [passes_append, passed]
    rw [passes_append] at none
    omega

/-- No more callbacks are called than there are references passed. -/
theorem PassedOnce.callbacks_le (once : PassedOnce id (early ++ late) s)
    (run : Run start early m) (rest : Run m late s) :
    callbacks (fun _ => true) early ≤ passes id early := by
  rcases Nat.eq_zero_or_pos (callbacks (fun _ => true) early) with none | called
  · rw [none]
    exact Nat.zero_le _
  · have ⟨guards_eq, callbacks_eq⟩ := run.balanced fun _ => true
    have counted := made_eq rest.grows
    rw [once.passes_eq called]
    omega

/-- No callback fails to give its reference back. -/
theorem PassedOnce.succeeds (once : PassedOnce id trace s) (run : Run start trace s)
    {own : ReceiverId} {answer : Except Fault Bool} (member : (.released n own answer, t) ∈ trace) :
    own = id ∧ ∃ last, answer = .ok last := by
  obtain ⟨early, late, before, rfl, first, step, rest⟩ := run.exists_step member
  have more : Run before ((.released n own answer, t) :: late) s :=
    (Run.nil.concat step).trans rest
  cases step with
  | @release one two _ drops _ _ q next does =>
    obtain ⟨a, found, taken, releases⟩ :=
      first.orderly.taken ⟨n, drops, .inside own⟩ (by simp [next])
    have releases : a.releases = some own := releases
    have release := once.release.of_grows more.grows
    have same := release a (List.mem_of_getElem? found) (Attempt.made_of_isTaken taken)
    obtain rfl : own = id := Option.some.inj (releases.symm.trans same)
    refine ⟨rfl, ?_⟩
    have spares := first.spares fun moment member =>
      once.spares moment (List.mem_append_left _ member)
    refine does.release_succeeds spares.reachable.sound fun r found => ?_
    -- This callback has not given its reference back yet.
    have balance := (spares.ledger found).balance
    have taken_eq := once.taken_eq
    have given_le := once.given_le
    have callbacks_le := once.callbacks_le first more
    have handed := first.callbacks_eq release fun _ => true
    rw [next, inside_turn] at handed
    simp only [Stage.isInside, Bool.and_true, Bool.toNat_true] at handed
    omega

/-- What the callbacks give back is all that is given back. -/
theorem PassedOnce.given_eq (once : PassedOnce id (early ++ late) s)
    (run : Run start (early ++ late) s) :
    Program.given (deeds early) id = returns (fun _ => true) early := by
  rw [Program.given, countP_deeds (Deed.givesBack id)]
  refine List.countP_congr fun moment member => ?_
  obtain ⟨act, t⟩ := moment
  have here := List.mem_append_left late member
  cases act with
  | did deed =>
    have kept := Act.givesBack_of_touches (once.untouched _ here)
    simp [Act.deed?, kept]
  | released n own answer =>
    obtain ⟨rfl, last, rfl⟩ := once.succeeds run here
    simp [Act.deed?, Deed.givesBack]
  | _ => exact Iff.rfl

/-- The receiver is released as soon as all proxies have given their references back, and not
before. -/
theorem PassedOnce.released_iff (once : PassedOnce id (early ++ late) s)
    (run : Run start early m) (rest : Run m late s) :
    (∃ r, m.program.world.receivers[id]? = some r ∧ r.phase = .released) ↔
      ∀ n, s.Has n → HasReturned early n := by
  have spares := run.spares fun moment member => once.spares moment (List.mem_append_left _ member)
  have later := rest.spares fun moment member => once.spares moment (List.mem_append_right _ member)
  have sound := spares.reachable.sound
  have taken_eq := once.taken_eq
  have given_eq := once.given_eq (run.trans rest)
  have many := once.exists_proxy
  rw [← run.returns_eq_iff rest once.release]
  constructor
  · rintro ⟨r, found, released⟩
    have refused := (later.run.released sound spares.reachable.guarded found released).2
    have total := once.passes_total
    rw [passes_append, passes_of_refused refused] at total
    have spent := (spares.released_iff found (by omega)).mp released
    omega
  · intro all
    have callbacks_le := once.callbacks_le run rest
    have handed := run.callbacks_eq (once.release.of_grows rest.grows) fun _ => true
    have passed : passes id early = made s.attempts := once.passes_eq (by omega)
    cases found : m.program.world.receivers[id]? with
    | none =>
      have untaken := (spares.run.books.1 id found).1
      omega
    | some r => exact ⟨r, rfl, (spares.released_iff found (by omega)).mpr (by omega)⟩

/-! ## All proxies of a run -/

/-- What one can rely on about an attempt to construct a proxy and about the proxy. -/
structure GivesBackOnce (trace : List (Act × Owners V)) (s : Owners V) (n : Nat) (a : Attempt) :
    Prop where
  /-- There is none for the handle of nothing, and one for every other handle. -/
  refused : a.proxy? = none ↔ a.handle.isNull = true
  /-- Where there is none, its callback is never called. -/
  silent : a.proxy? = none → callbacks (· == n) trace = 0
  handle : ∀ proxy, a.proxy? = some proxy → ∀ handle t, (.called n handle, t) ∈ trace →
    handle = proxy.handle
  once : callbacks (· == n) trace ≤ 1
  /-- By the time that a call has disposed the proxy or dropped it, the callback has been called. -/
  settled : IsSettled trace n → callbacks (· == n) trace = 1
  /-- When the guard is taken, the callback has been called or is about to be. -/
  taken : callbacks (· == n) trace + due (· == n) s.disposals = a.isTaken.toNat
  /-- Of all calls that dispose the proxy, at most one has got the guard. -/
  winner : wins (· == n) trace ≤ 1

theorem Run.givesBackOnce (run : Run start trace s) (found : s.attempts[n]? = some a) :
    GivesBackOnce trace s n a := by
  have sound := run.orderly.sound a (List.mem_of_getElem? found)
  have ⟨guards_eq, callbacks_eq⟩ := run.balanced (· == n)
  have few := run.callbacks_le_one n
  rw [guards_one, found, Option.any_some] at guards_eq
  refine ⟨sound.refused, fun none => ?_, fun proxy there handle t member => ?_, few.1,
    run.callbacks_of_settled, by omega, by omega⟩
  · rw [Attempt.isTaken, none, Option.any_none, Bool.toNat_false] at guards_eq
    omega
  · obtain ⟨b, stored, _, named⟩ := run.called member
    rw [found] at stored
    obtain rfl := Option.some.inj stored
    rw [named, sound.handle proxy there]

/-- Proxies give each reference back once, whatever calls there are on them and in whatever order:
none is constructed for the handle of nothing, and the callback of each one is called at most once,
with the handle of the proxy, and has been called by the time that the proxy has been disposed or
dropped. Where all of them give references to one receiver back, of which one for each was passed to
native code before and with which nothing else is done, all callbacks succeed, and the receiver is
released and without an entry when the last of the proxies has been disposed or dropped, but not
before every one has given its reference back. -/
theorem returns_of_run (run : Run start trace s) :
    (∀ n a, s.attempts[n]? = some a → GivesBackOnce trace s n a) ∧
      ∀ id, PassedOnce id trace s →
        (∀ n own answer t, (.released n own answer, t) ∈ trace →
          own = id ∧ ∃ last, answer = .ok last) ∧
        ∀ early late m, trace = early ++ late → Run start early m → Run m late s →
          ((∀ n, s.Has n → IsSettled early n) →
            ∃ r, m.program.world.receivers[id]? = some r ∧ r.phase = .released ∧
              ∀ registry handle,
                (m.program.world.registries registry).get? handle ≠ some (.receiver id)) ∧
          ((∃ r, m.program.world.receivers[id]? = some r ∧ r.phase = .released) →
            ∀ n, s.Has n → HasReturned early n) := by
  refine ⟨fun n a found => run.givesBackOnce found, fun id once => ⟨?_, ?_⟩⟩
  · exact fun n own answer t member => once.succeeds run member
  · rintro early late m rfl first rest
    have released_iff := once.released_iff first rest
    refine ⟨fun settled => ?_, released_iff.mp⟩
    have release := once.release.of_grows rest.grows
    obtain ⟨r, found, released⟩ :=
      released_iff.mpr fun n has => first.hasReturned release (settled n has)
    have spares := first.spares fun moment member =>
      once.spares moment (List.mem_append_left late member)
    have rooted := spares.reachable.sound.rooted
    exact ⟨r, found, released, rooted.entry_ne found (rooted.count_of_released found released)⟩

/-- Two proxies for one receiver, which was passed to native code twice, and none for the handle of
nothing: the first one is disposed twice while the other one is dropped. -/
theorem returns_of_run_two : ∃ (trace : List (Act × Owners Nat)) (s : Owners Nat),
    Run start trace s ∧ PassedOnce 0 trace s ∧
      s.attempts.map (fun a => a.proxy?.isSome) = [true, false, true] ∧
      (∀ n, s.Has n → IsSettled trace n) ∧
      (∀ n a, s.attempts[n]? = some a → GivesBackOnce trace s n a) ∧
      ∀ id, PassedOnce id trace s →
        (∀ n own answer t, (.released n own answer, t) ∈ trace →
          own = id ∧ ∃ last, answer = .ok last) ∧
        ∀ early late m, trace = early ++ late → Run start early m → Run m late s →
          ((∀ n, s.Has n → IsSettled early n) →
            ∃ r, m.program.world.receivers[id]? = some r ∧ r.phase = .released ∧
              ∀ registry handle,
                (m.program.world.registries registry).get? handle ≠ some (.receiver id)) ∧
          ((∃ r, m.program.world.receivers[id]? = some r ∧ r.phase = .released) →
            ∀ n, s.Has n → HasReturned early n) := by
  have created := (Run.nil (s := (start : Owners Nat))).concat (.program
    (.create 7 ⟨false, true⟩ globalRegistry true (show Handle.isNull ⟨16⟩ = false from rfl)
      (by simp [start, Program.start, World.empty]))
    (Program.ne_dispose rfl))
  have passed := (created.concat (.program (.toNative (show 0 < Program.owned _ 0 by decide))
      (Program.ne_dispose rfl))).concat
    (.program (.toNative (show 0 < Program.owned _ 0 by decide))
      (Program.ne_dispose rfl))
  have wrapped := ((passed.concat (.own ⟨16⟩ (some 0))).concat (.ofNative .null (some 0))).concat
    (.ofNative ⟨16⟩ (some 0))
  have begun := ((wrapped.concat (.dispose (n := 0) rfl rfl rfl)).concat
    (.drop (n := 2) rfl rfl rfl (List.forall_mem_singleton.mpr (by decide)))).concat
    (.dispose (n := 0) rfl rfl rfl)
  -- The second disposal of the first proxy has not got the guard, and ends before all others.
  have lost := begun.concat (.ends (show _ = [_, _] ++ _ :: [] from rfl))
  have dropped := (lost.concat (.callBack (show _ = [_] ++ _ :: [] from rfl) rfl)).concat
    (.release (show _ = [_] ++ _ :: [] from rfl) (.release (show 0 < Program.owned _ 0 by decide)))
  have spent := ((dropped.concat (.callBack (show _ = [] ++ _ :: [_] from rfl) rfl)).concat
    (.ends (show _ = [_] ++ _ :: [] from rfl))).concat
    (.release (show _ = [] ++ _ :: [] from rfl) (.release (show 0 < Program.owned _ 0 by decide)))
  have ended := spent.concat (.ends (show _ = [] ++ _ :: [] from rfl))
  refine ⟨_, _, ended, ⟨?_, by decide, ?_, by decide⟩, rfl, ?_, returns_of_run ended⟩
  · simp [AllRelease, start, attempt, disposing, Attempt.disposed]
  · exact ⟨List.take 3 _, List.drop 3 _, (List.take_append_drop 3 _).symm, by decide, rfl, rfl⟩
  · rintro n ⟨a, found, there⟩
    rcases n with _ | _ | _ | n
    · exact ⟨false, true, _, List.mem_concat_self, .inr rfl⟩
    · cases found
      contradiction
    · exact ⟨true, true, _, List.mem_append_left _ (List.mem_append_left _ List.mem_concat_self),
        .inl rfl⟩
    · cases found

end Owners

end Bindery.Lifetime
