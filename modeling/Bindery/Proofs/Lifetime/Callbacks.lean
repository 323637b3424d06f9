import Bindery.Proofs.Lifetime.Owners

/-! # The callback of a proxy

What one can rely on about each proxy at any time: it stands for the handle that it was constructed
with, which is not that of nothing, and a call that is on its way to dispose it has taken the guard
or found it taken. The call that drops it is the only one, and the last. Main statements: the
callback of a proxy is called with the handle of the proxy (`Run.called`), and once by the time that
a call has disposed the proxy or dropped it (`Run.callbacks_of_settled`).
-/

namespace Bindery.Lifetime

variable {V : Type} {n : Nat} {a b : Attempt}

/-- An attempt has a proxy unless the handle is that of nothing, and the proxy is one for the
handle. -/
structure Attempt.Sound (a : Attempt) : Prop where
  refused : a.proxy? = none ↔ a.handle.isNull = true
  handle : ∀ proxy, a.proxy? = some proxy → proxy.handle = a.handle

/-- What an attempt can become. -/
structure Attempt.Becomes (a b : Attempt) : Prop where
  handle : b.handle = a.handle
  releases : b.releases = a.releases
  made : b.proxy?.isSome = a.proxy?.isSome
  taken : a.isTaken = true → b.isTaken = true
  gone : a.gone = true → b.gone = true

theorem Attempt.Becomes.refl (a : Attempt) : a.Becomes a := ⟨rfl, rfl, rfl, id, id⟩

theorem Attempt.Becomes.trans {c : Attempt} (first : a.Becomes b) (second : b.Becomes c) :
    a.Becomes c :=
  ⟨second.handle.trans first.handle, second.releases.trans first.releases,
    second.made.trans first.made, second.taken ∘ first.taken, second.gone ∘ first.gone⟩

/-- Where the guard is taken there is a proxy. -/
theorem Attempt.made_of_isTaken (taken : a.isTaken = true) : a.proxy?.isSome = true := by
  rw [isTaken] at taken
  cases proxy : a.proxy? with
  | none => rw [proxy] at taken; contradiction
  | some _ => rfl

theorem Attempt.becomes_disposed {proxy : Proxy} (there : a.proxy? = some proxy)
    (kept : a.gone = false) (drops : Bool) : a.Becomes (a.disposed proxy drops) :=
  ⟨rfl, rfl, by rw [there]; rfl, fun _ => rfl, fun gone => by rw [kept] at gone; contradiction⟩

theorem Attempt.Sound.of_disposed {proxy : Proxy} (sound : a.Sound) (there : a.proxy? = some proxy)
    (drops : Bool) : (a.disposed proxy drops).Sound where
  refused := by
    rw [Attempt.disposed, ← sound.refused, there]
    exact ⟨nofun, nofun⟩
  handle := by
    rintro _ ⟨⟩
    exact sound.handle proxy there

theorem Attempt.sound_of_own (handle : Handle) (releases : Option ReceiverId) :
    Attempt.Sound ⟨handle, releases, (Proxy.own handle).toOption, false⟩ := by
  unfold Proxy.own
  constructor
  · cases handle.isNull <;> simp [Except.toOption]
  · cases handle.isNull <;> simp [Except.toOption]

/-- A call is about the handle of its proxy, and its callback is that of its proxy. -/
def Stage.Fits (a : Attempt) : Stage → Prop
  | due handle => handle = a.handle
  | inside id => a.releases = some id
  | ending _ => True

theorem Stage.Fits.of_becomes {stage : Stage} (becomes : a.Becomes b) (fits : stage.Fits a) :
    stage.Fits b := by
  cases stage with
  | due handle => exact fits.trans becomes.handle.symm
  | inside id => exact becomes.releases.trans fits
  | ending won => trivial

/-- A call that has got the guard is to call the callback with the handle of the proxy. -/
theorem Stage.fits_opening {proxy : Proxy} (sound : a.Sound) (there : a.proxy? = some proxy) :
    (opening proxy).Fits a := by
  rw [opening, Proxy.dispose]
  cases proxy.guard.take.1 with
  | true => exact sound.handle proxy there
  | false => trivial

theorem Stage.fits_following (a : Attempt) : (following a.releases).Fits a := by
  cases releases : a.releases with
  | none => trivial
  | some id => exact releases

namespace Owners

variable {s t : Owners V} {act : Act} {trace : List (Act × Owners V)}

/-- How many calls that dispose a proxy or drop it are on their way. -/
def underWay (n : Nat) (disposals : List Disposal) : Nat :=
  disposals.countP fun d => d.proxy == n

/-- How many of them drop it. -/
def dropping (n : Nat) (disposals : List Disposal) : Nat :=
  disposals.countP fun d => d.proxy == n && d.drops

theorem underWay_turn (n : Nat) (before after : List Disposal) (d : Disposal) :
    underWay n (before ++ d :: after) = underWay n (before ++ after) + (d.proxy == n).toNat :=
  countP_turn _ before after d

theorem dropping_turn (n : Nat) (before after : List Disposal) (d : Disposal) :
    dropping n (before ++ d :: after) =
      dropping n (before ++ after) + (d.proxy == n && d.drops).toNat :=
  countP_turn _ before after d

/-- What holds at any time. -/
structure Orderly (s : Owners V) : Prop where
  sound : ∀ a ∈ s.attempts, a.Sound
  taken : ∀ d ∈ s.disposals, ∃ a, s.attempts[d.proxy]? = some a ∧ a.isTaken = true ∧
    d.stage.Fits a
  alone : ∀ n, 1 ≤ dropping n s.disposals → underWay n s.disposals = 1 ∧
    ∃ a, s.attempts[n]? = some a ∧ a.gone = true

/-- Every attempt is still there and has become what it can. -/
def Grows (attempts later : List Attempt) : Prop :=
  ∀ (n : Nat) (a : Attempt), attempts[n]? = some a → ∃ b, later[n]? = some b ∧ a.Becomes b

theorem Grows.refl (attempts : List Attempt) : Grows attempts attempts :=
  fun _ a found => ⟨a, found, .refl a⟩

theorem Grows.trans {first second third : List Attempt} (one : Grows first second)
    (two : Grows second third) : Grows first third := by
  intro n a found
  obtain ⟨b, stored, becomes⟩ := one n a found
  obtain ⟨c, last, more⟩ := two n b stored
  exact ⟨c, last, becomes.trans more⟩

theorem Grows.concat (attempts : List Attempt) (new : Attempt) :
    Grows attempts (attempts ++ [new]) := by
  intro n a found
  refine ⟨a, ?_, .refl a⟩
  rw [List.getElem?_append_left (List.getElem?_eq_some_iff.mp found).1, found]

theorem Grows.set {attempts : List Attempt} (made : attempts[n]? = some a) (becomes : a.Becomes b) :
    Grows attempts (attempts.set n b) := by
  intro k c found
  rw [List.getElem?_set]
  split
  · next here =>
    subst here
    rw [made] at found
    obtain rfl := Option.some.inj found
    exact ⟨b, if_pos (List.getElem?_eq_some_iff.mp made).1, becomes⟩
  · exact ⟨c, found, .refl c⟩

theorem Step.grows (step : Step s act t) : Grows s.attempts t.attempts := by
  cases step with
  | own _ _ | ofNative _ _ => exact .concat _ _
  | dispose made there kept => exact .set made (Attempt.becomes_disposed there kept false)
  | drop made there kept _ => exact .set made (Attempt.becomes_disposed there kept true)
  | _ => exact .refl _

theorem Run.grows (run : Run s trace t) : Grows s.attempts t.attempts := by
  induction run with
  | nil => exact .refl _
  | concat _ step ih => exact ih.trans step.grows

theorem orderly_start : (start : Owners V).Orderly where
  sound := nofun
  taken := nofun
  alone := nofun

/-- Another attempt is as orderly as the others. -/
theorem Orderly.attempt (orderly : s.Orderly) {handle : Handle} {releases : Option ReceiverId}
    {proxy? : Option Proxy} (sound : Attempt.Sound ⟨handle, releases, proxy?, false⟩) :
    (s.attempt handle releases proxy?).Orderly where
  sound a member := by
    obtain old | new := List.mem_append.mp member
    · exact orderly.sound a old
    · rw [List.mem_singleton.mp new]
      exact sound
  taken d member := by
    obtain ⟨a, found, taken, fits⟩ := orderly.taken d member
    obtain ⟨b, stored, becomes⟩ := Grows.concat _ ⟨handle, releases, proxy?, false⟩ _ a found
    exact ⟨b, stored, becomes.taken taken, fits.of_becomes becomes⟩
  alone k some := by
    obtain ⟨one, a, found, gone⟩ := orderly.alone k some
    obtain ⟨b, stored, becomes⟩ := Grows.concat _ ⟨handle, releases, proxy?, false⟩ _ a found
    exact ⟨one, b, stored, becomes.gone gone⟩

/-- A disposal may begin as long as nobody drops the proxy, and drop it when no other is on its
way. -/
theorem Orderly.disposing (orderly : s.Orderly) {proxy : Proxy} (made : s.attempts[n]? = some a)
    (there : a.proxy? = some proxy) (kept : a.gone = false) {drops : Bool}
    (alone : drops = true → ∀ d ∈ s.disposals, d.proxy ≠ n) :
    (s.disposing n a proxy drops).Orderly where
  sound b member := by
    obtain old | rfl := List.mem_or_eq_of_mem_set member
    · exact orderly.sound b old
    · exact (orderly.sound a (List.mem_of_getElem? made)).of_disposed there drops
  taken d member := by
    have becomes := a.becomes_disposed there kept drops
    obtain old | new := List.mem_append.mp member
    · obtain ⟨b, found, taken, fits⟩ := orderly.taken d old
      obtain ⟨c, stored, more⟩ := Grows.set made becomes _ b found
      exact ⟨c, stored, more.taken taken, fits.of_becomes more⟩
    · rw [List.mem_singleton.mp new]
      have fits := Stage.fits_opening (orderly.sound a (List.mem_of_getElem? made)) there
      exact ⟨a.disposed proxy drops,
        List.getElem?_set_self (List.getElem?_eq_some_iff.mp made).1, rfl, fits.of_becomes becomes⟩
  alone k some := by
    simp only [Owners.disposing, dropping_turn, underWay_turn, List.append_nil] at some ⊢
    by_cases here : n = k
    · subst here
      -- Nobody drops the proxy yet, as it is still there to be disposed.
      have others : dropping n s.disposals = 0 := by
        refine Nat.lt_one_iff.mp (Nat.lt_of_not_le fun dropped => ?_)
        obtain ⟨_, b, found, gone⟩ := orderly.alone n dropped
        rw [made] at found
        obtain rfl := Option.some.inj found
        rw [kept] at gone
        contradiction
      have dropped : drops = true := by
        cases drops with
        | true => rfl
        | false => simp [others] at some
      have none : underWay n s.disposals = 0 :=
        List.countP_eq_zero.mpr fun d member => by simpa using alone dropped d member
      refine ⟨by simp [none], a.disposed proxy drops, ?_, dropped⟩
      exact List.getElem?_set_self (List.getElem?_eq_some_iff.mp made).1
    · have apart : (n == k) = false := beq_eq_false_iff_ne.mpr here
      simp only [apart, Bool.false_and, Bool.toNat_false, Nat.add_zero] at some ⊢
      obtain ⟨one, b, found, gone⟩ := orderly.alone k some
      exact ⟨one, b, by rwa [List.getElem?_set_ne here], gone⟩

/-- A call goes on to what its proxy has come to next. -/
theorem Orderly.goOn (orderly : s.Orderly) {before after : List Disposal} {drops : Bool}
    {stage later : Stage} (next : s.disposals = before ++ ⟨n, drops, stage⟩ :: after)
    (fits : ∀ a, s.attempts[n]? = some a → later.Fits a) (p : Program V) :
    Orderly { s with program := p, disposals := before ++ ⟨n, drops, later⟩ :: after } where
  sound := orderly.sound
  taken d member := by
    have old (there : d ∈ s.disposals) := orderly.taken d there
    rw [next] at old
    simp only [List.mem_append, List.mem_cons] at old member
    obtain early | rfl | late := member
    · exact old (.inl early)
    · obtain ⟨a, found, taken, _⟩ := orderly.taken ⟨n, drops, stage⟩ (by simp [next])
      exact ⟨a, found, taken, fits a found⟩
    · exact old (.inr (.inr late))
  alone k some := by
    have alone := orderly.alone k
    simp only [next, dropping_turn, underWay_turn] at alone some ⊢
    exact alone some

/-- A call ends. -/
theorem Orderly.ends (orderly : s.Orderly) {before after : List Disposal} {d : Disposal}
    (next : s.disposals = before ++ d :: after) :
    Orderly { s with disposals := before ++ after } where
  sound := orderly.sound
  taken e member := by
    refine orderly.taken e ?_
    rw [next]
    simp only [List.mem_append, List.mem_cons] at member ⊢
    exact member.imp_right .inr
  alone k some := by
    have alone := orderly.alone k
    simp only [next, dropping_turn, underWay_turn] at alone some ⊢
    obtain ⟨one, gone⟩ := alone (by omega)
    refine ⟨?_, gone⟩
    have counted : dropping k (before ++ after) ≤ underWay k (before ++ after) :=
      List.countP_mono_left fun d _ dropped => by
        simp only [Bool.and_eq_true] at dropped
        exact dropped.1
    omega

/-- Every step keeps the order. -/
theorem Orderly.step (orderly : s.Orderly) (step : Step s act t) : t.Orderly := by
  cases step with
  | own handle releases | ofNative handle releases =>
    exact orderly.attempt (Attempt.sound_of_own handle releases)
  | dispose made there kept => exact orderly.disposing made there kept nofun
  | drop made there kept alone => exact orderly.disposing made there kept fun _ => alone
  | @callBack _ _ _ _ _ a next made =>
    refine orderly.goOn next (fun b found => ?_) _
    rw [made] at found
    obtain rfl := Option.some.inj found
    exact Stage.fits_following a
  | release next does =>
    have fits (a : Attempt) : Stage.Fits a (.ending true) := trivial
    exact orderly.goOn next (fun a _ => fits a) _
  | ends next => exact orderly.ends next
  | handle _ _ _ => exact orderly
  | program _ _ | disposeReceiver _ => exact ⟨orderly.sound, orderly.taken, orderly.alone⟩

theorem Run.orderly (run : Run start trace s) : s.Orderly := by
  induction run with
  | nil => exact orderly_start
  | concat _ step ih => exact ih.step step

/-! ## Runs and their parts -/

theorem Run.trans {later : List (Act × Owners V)} {u : Owners V} (first : Run s trace t)
    (second : Run t later u) : Run s (trace ++ later) u := by
  induction second with
  | nil => rwa [List.append_nil]
  | concat _ step ih =>
    rw [← List.append_assoc]
    exact ih.concat step

/-- What a run lets be seen is seen with one of its steps. -/
theorem Run.exists_step {u : Owners V} (run : Run s trace t) (member : (act, u) ∈ trace) :
    ∃ (early late : List (Act × Owners V)) (before : Owners V), trace = early ++ (act, u) :: late ∧
      Run s early before ∧ Step before act u ∧ Run u late t := by
  induction run with
  | nil => contradiction
  | @concat trace last t next run step ih =>
    obtain old | new := List.mem_append.mp member
    · obtain ⟨early, late, before, rfl, start, taken, rest⟩ := ih old
      exact ⟨early, late ++ [(last, next)], before, by simp, start, taken, rest.concat step⟩
    · obtain ⟨rfl, rfl⟩ := Prod.mk.inj (List.mem_singleton.mp new)
      exact ⟨trace, [], t, rfl, run, step, .nil⟩

/-! ## The guard of one proxy, and its callback -/

theorem guards_of_isTaken (made : s.attempts[n]? = some a) (taken : a.isTaken = true) :
    guards (· == n) s.attempts = 1 := by
  rw [guards_one, made, Option.any_some, taken]
  rfl

theorem guards_le_one (n : Nat) (attempts : List Attempt) : guards (· == n) attempts ≤ 1 := by
  rw [guards_one]
  exact Bool.toNat_le _

/-- A callback is called for a proxy whose guard is taken, with the handle of the proxy. -/
theorem Run.called {handle : Handle} (run : Run start trace s)
    (member : (.called n handle, t) ∈ trace) :
    ∃ a, s.attempts[n]? = some a ∧ a.isTaken = true ∧ handle = a.handle := by
  obtain ⟨early, late, before, rfl, start, step, rest⟩ := run.exists_step member
  cases step with
  | @callBack first second _ drops _ _ next made =>
    obtain ⟨a, found, taken, fits⟩ :=
      start.orderly.taken ⟨n, drops, .due handle⟩ (by simp [next])
    obtain ⟨b, stored, becomes⟩ := rest.grows n a found
    exact ⟨b, stored, becomes.taken taken, fits.of_becomes becomes⟩

/-- A call has got the guard of a proxy and has ended, or a call that drops it has ended. -/
def IsSettled (trace : List (Act × Owners V)) (n : Nat) : Prop :=
  ∃ (drops won : Bool) (t : Owners V),
    (.returned n drops won, t) ∈ trace ∧ (drops = true ∨ won = true)

theorem wins_pos_of_mem {drops : Bool} (member : (.returned n drops true, t) ∈ trace) :
    1 ≤ wins (· == n) trace :=
  List.countP_pos_iff.mpr ⟨_, member, by simp⟩

/-- When a call that drops a proxy ends, one has ended that had got the guard. -/
theorem Run.wins_of_settled (run : Run start trace s) (settled : IsSettled trace n) :
    1 ≤ wins (· == n) trace := by
  obtain ⟨drops, won, t, member, ended⟩ := settled
  cases won with
  | true => exact wins_pos_of_mem member
  | false =>
    obtain rfl : drops = true := ended.resolve_right nofun
    obtain ⟨early, late, before, rfl, start, step, rest⟩ := run.exists_step member
    cases step with
    | @ends first second _ _ _ next =>
      -- The call was the only one on its way, so that the guard was another one's, which has ended.
      obtain ⟨a, found, taken, _⟩ := start.orderly.taken ⟨n, true, .ending false⟩ (by simp [next])
      obtain ⟨one, _⟩ := start.orderly.alone n (by simp [next, dropping_turn])
      have guards_eq := (start.balanced (· == n)).guards_eq
      have calls : due (· == n) before.disposals + past (· == n) before.disposals = 0 := by
        have fewDue : due (· == n) (first ++ second) ≤ underWay n (first ++ second) :=
          List.countP_mono_left fun d _ => by simp +contextual
        have fewPast : past (· == n) (first ++ second) ≤ underWay n (first ++ second) :=
          List.countP_mono_left fun d _ => by simp +contextual
        simp only [next, underWay_turn, due_turn, past_turn, beq_self_eq_true, Bool.toNat_true,
          Stage.isDue, Stage.isPast, Bool.and_false, Bool.toNat_false] at one ⊢
        omega
      rw [guards_of_isTaken found taken] at guards_eq
      rw [wins, List.countP_append, ← wins]
      omega

/-- No callback is called twice, and one that is called has been called for the call that got the
guard. -/
theorem Run.callbacks_le_one (run : Run start trace s) (n : Nat) :
    callbacks (· == n) trace ≤ 1 ∧ wins (· == n) trace ≤ callbacks (· == n) trace := by
  have ⟨guards_eq, callbacks_eq⟩ := run.balanced (· == n)
  have one := guards_le_one n s.attempts
  omega

/-- What has been disposed or dropped has had its callback called. -/
theorem Run.callbacks_of_settled (run : Run start trace s) (settled : IsSettled trace n) :
    callbacks (· == n) trace = 1 := by
  have won := run.wins_of_settled settled
  have few := run.callbacks_le_one n
  omega

end Owners

end Bindery.Lifetime
