import Bindery.Lifetime.Proxy
import Bindery.Proofs.Lifetime.Runs

/-! # Proxies in a program with threads

Proxies are constructed, asked for their handle, disposed and dropped, in any number and order,
while the program goes on. To dispose a proxy takes its guard in one step; the one that gets it
calls the callback of the proxy, which may give a reference to a receiver back, and then ends.
Whatever else a callback does is a step of the program, or of a call on another proxy. Main
statement: the guards that have been taken, the callbacks that have been called and the calls that
are on their way balance at any time (`Run.balanced`).
-/

namespace Bindery.Lifetime

variable {V : Type}

/-- A proxy that is constructed has its guard free. -/
theorem Proxy.fresh_of_own (handle : Handle) :
    (Proxy.own handle).toOption.any Proxy.isDisposed = false := by
  unfold Proxy.own
  split <;> rfl

/-- An attempt to construct a proxy. -/
structure Attempt where
  handle : Handle
  /-- The receiver to which the callback gives a reference back, if it does. -/
  releases : Option ReceiverId
  /-- The proxy, unless its construction was refused. -/
  proxy? : Option Proxy
  /-- The proxy is being dropped, or has been. -/
  gone : Bool

/-- Whether the guard of the proxy has been taken. -/
def Attempt.isTaken (attempt : Attempt) : Bool := attempt.proxy?.any Proxy.isDisposed

/-- The attempt with the guard of its proxy taken, by a call that drops the proxy or by one that
does not. -/
def Attempt.disposed (attempt : Attempt) (proxy : Proxy) (drops : Bool) : Attempt :=
  { attempt with proxy? := some proxy.dispose.2, gone := drops }

/-- How far the disposal of a proxy has come. -/
inductive Stage where
  /-- The guard is taken, and the callback is to be called with a handle. -/
  | due (handle : Handle)
  /-- In the callback, which is to give a reference to a receiver back. -/
  | inside (id : ReceiverId)
  /-- About to end, for the one that has got the guard or for one that has not. -/
  | ending (won : Bool)

namespace Stage

/-- Whether the callback is to be called. -/
def isDue : Stage → Bool
  | due _ => true
  | _ => false

/-- Whether the callback has been called. -/
def isPast : Stage → Bool
  | inside _ => true
  | ending won => won
  | due _ => false

/-- Whether the callback has yet to give a reference back. -/
def isInside : Stage → Bool
  | inside _ => true
  | _ => false

/-- What comes of trying to take the guard of a proxy. -/
def opening (proxy : Proxy) : Stage :=
  match proxy.dispose.1 with
  | some handle => due handle
  | none => ending false

/-- What comes of calling the callback. -/
def following : (releases : Option ReceiverId) → Stage
  | some id => inside id
  | none => ending true

theorem isDue_opening (proxy : Proxy) : (opening proxy).isDue = !proxy.isDisposed := by
  rw [opening, Proxy.dispose, Guard.take, ← Proxy.isDisposed]
  cases proxy.isDisposed <;> rfl

theorem isPast_opening (proxy : Proxy) : (opening proxy).isPast = false := by
  rw [opening, Proxy.dispose, Guard.take]
  cases proxy.guard.taken <;> rfl

theorem isInside_opening (proxy : Proxy) : (opening proxy).isInside = false := by
  rw [opening, Proxy.dispose, Guard.take]
  cases proxy.guard.taken <;> rfl

theorem isPast_following (releases : Option ReceiverId) : (following releases).isPast = true := by
  cases releases <;> rfl

theorem isDue_following (releases : Option ReceiverId) : (following releases).isDue = false := by
  cases releases <;> rfl

end Stage

/-- A call that disposes a proxy, or drops it. -/
structure Disposal where
  proxy : Nat
  drops : Bool
  stage : Stage

/-- A program with all attempts to construct proxies, and the disposals that are on their way. -/
structure Owners (V : Type) where
  program : Program V
  attempts : List Attempt
  disposals : List Disposal

/-- What a step lets be seen. -/
inductive Act where
  /-- A proxy was asked for its handle. -/
  | handle (n : Nat) (answer : Except Fault Handle)
  /-- The callback of a proxy was called. -/
  | called (n : Nat) (handle : Handle)
  /-- The callback of a proxy has given a reference back. -/
  | released (n : Nat) (id : ReceiverId) (answer : Except Fault Bool)
  /-- A call that disposes or drops a proxy has ended, for the one that has got the guard or not. -/
  | returned (n : Nat) (drops won : Bool)
  /-- The program has done something else. -/
  | did (deed : Deed)
  /-- The program begins to dispose a receiver. -/
  | disposes (id : ReceiverId)
  | other

namespace Owners

/-- No proxies, and a program that has done nothing yet. -/
def start : Owners V := ⟨.start, [], []⟩

/-- Another attempt to construct a proxy. -/
def attempt (s : Owners V) (handle : Handle) (releases : Option ReceiverId)
    (proxy? : Option Proxy) : Owners V :=
  { s with attempts := s.attempts ++ [⟨handle, releases, proxy?, false⟩] }

/-- The disposal of a proxy begins with taking its guard. -/
def disposing (s : Owners V) (n : Nat) (a : Attempt) (proxy : Proxy) (drops : Bool) : Owners V :=
  { s with
    attempts := s.attempts.set n (a.disposed proxy drops)
    disposals := s.disposals ++ [⟨n, drops, .opening proxy⟩] }

/-- The steps of a program with proxies. A proxy is dropped by the last one who has it, when no
other call on it is on its way. -/
inductive Step : Owners V → Act → Owners V → Prop where
  | own {s : Owners V} (handle : Handle) (releases : Option ReceiverId) :
      Step s .other (s.attempt handle releases (Proxy.own handle).toOption)
  | ofNative {s : Owners V} (handle : Handle) (releases : Option ReceiverId) :
      Step s .other (s.attempt handle releases (Proxy.ofNative? handle))
  | handle {s : Owners V} {n : Nat} {a : Attempt} {proxy : Proxy}
      (made : s.attempts[n]? = some a) (there : a.proxy? = some proxy) (kept : a.gone = false) :
      Step s (.handle n proxy.currentHandle) s
  | dispose {s : Owners V} {n : Nat} {a : Attempt} {proxy : Proxy}
      (made : s.attempts[n]? = some a) (there : a.proxy? = some proxy) (kept : a.gone = false) :
      Step s .other (s.disposing n a proxy false)
  | drop {s : Owners V} {n : Nat} {a : Attempt} {proxy : Proxy}
      (made : s.attempts[n]? = some a) (there : a.proxy? = some proxy) (kept : a.gone = false)
      (alone : ∀ d ∈ s.disposals, d.proxy ≠ n) : Step s .other (s.disposing n a proxy true)
  | callBack {s : Owners V} {before after : List Disposal} {n : Nat} {drops : Bool}
      {handle : Handle} {a : Attempt}
      (next : s.disposals = before ++ ⟨n, drops, .due handle⟩ :: after)
      (made : s.attempts[n]? = some a) :
      Step s (.called n handle) { s with
        disposals := before ++ ⟨n, drops, .following a.releases⟩ :: after }
  | release {s : Owners V} {before after : List Disposal} {n : Nat} {drops : Bool}
      {id : ReceiverId} {answer : Except Fault Bool} {q : Program V}
      (next : s.disposals = before ++ ⟨n, drops, .inside id⟩ :: after)
      (does : s.program.Does (.release id answer) q) :
      Step s (.released n id answer) { s with
        program := q, disposals := before ++ ⟨n, drops, .ending true⟩ :: after }
  | ends {s : Owners V} {before after : List Disposal} {n : Nat} {drops won : Bool}
      (next : s.disposals = before ++ ⟨n, drops, .ending won⟩ :: after) :
      Step s (.returned n drops won) { s with disposals := before ++ after }
  | program {s : Owners V} {deed : Deed} {q : Program V} (does : s.program.Does deed q)
      (other : ∀ id, q ≠ s.program.dispose id) : Step s (.did deed) { s with program := q }
  | disposeReceiver {s : Owners V} {id : ReceiverId} (owned : 0 < s.program.owned id) :
      Step s (.disposes id) { s with program := s.program.dispose id }

/-- A run from one state to another: what its steps let be seen, each with the state after it. -/
inductive Run (s : Owners V) : List (Act × Owners V) → Owners V → Prop where
  | nil : Run s [] s
  | concat {trace : List (Act × Owners V)} {act : Act} {t next : Owners V}
      (run : Run s trace t) (step : Step t act next) : Run s (trace ++ [(act, next)]) next

/-! ## Accounts of guards and callbacks -/

section Accounts

variable (about : Nat → Bool) (trace : List (Act × Owners V))

/-- How many guards have been taken, of the proxies that are asked about. -/
def guards (attempts : List Attempt) : Nat :=
  (attempts.mapIdx fun n a => about n && a.isTaken).count true

/-- How many disposals are about to call the callback. -/
def due (disposals : List Disposal) : Nat :=
  disposals.countP fun d => about d.proxy && d.stage.isDue

/-- How many disposals that have called the callback have yet to end. -/
def past (disposals : List Disposal) : Nat :=
  disposals.countP fun d => about d.proxy && d.stage.isPast

/-- How often a callback was called. -/
def callbacks : Nat := trace.countP fun moment =>
  match moment.1 with
  | .called n _ => about n
  | _ => false

/-- How often a disposal has ended that had got the guard. -/
def wins : Nat := trace.countP fun moment =>
  match moment.1 with
  | .returned n _ won => about n && won
  | _ => false

/-- Each guard that was taken was taken by one disposal, which is about to call the callback, or has
called it and has yet to end, or has ended. -/
structure Balanced (s : Owners V) : Prop where
  guards_eq : guards about s.attempts =
    due about s.disposals + past about s.disposals + wins about trace
  callbacks_eq : callbacks about trace = past about s.disposals + wins about trace

end Accounts

variable {about : Nat → Bool} {trace : List (Act × Owners V)} {s t : Owners V} {act : Act}
  {n : Nat} {a : Attempt}

theorem guards_concat (about : Nat → Bool) (attempts : List Attempt) (handle : Handle)
    (releases : Option ReceiverId) {proxy? : Option Proxy}
    (fresh : proxy?.any Proxy.isDisposed = false) :
    guards about (attempts ++ [⟨handle, releases, proxy?, false⟩]) = guards about attempts := by
  simp [guards, Attempt.isTaken, fresh]

theorem count_true_cons (counted : Bool) (rest : List Bool) :
    (counted :: rest).count true = counted.toNat + rest.count true := by
  cases counted with
  | false => simp
  | true => simp [Nat.add_comm]

theorem guards_cons (about : Nat → Bool) (a : Attempt) (attempts : List Attempt) :
    guards about (a :: attempts) =
      (about 0 && a.isTaken).toNat + guards (fun n => about (n + 1)) attempts := by
  rw [guards, List.mapIdx_cons, count_true_cons, guards]

/-- Taking a guard that was free adds one. -/
theorem guards_set (about : Nat → Bool) {attempts : List Attempt} {b : Attempt}
    (made : attempts[n]? = some a) (taken : b.isTaken = true) :
    guards about (attempts.set n b) =
      guards about attempts + (about n && !a.isTaken).toNat := by
  induction attempts generalizing n about with
  | nil => contradiction
  | cons c rest ih =>
    cases n with
    | zero =>
      obtain rfl : c = a := Option.some.inj made
      have entry (asked free : Bool) :
          (asked && true).toNat = (asked && free).toNat + (asked && !free).toNat := by
        cases asked <;> cases free <;> rfl
      rw [List.set_cons_zero, guards_cons, guards_cons, taken, entry _ c.isTaken]
      omega
    | succ n =>
      rw [List.set_cons_succ, guards_cons, guards_cons, ih _ made, Nat.add_assoc]

/-- One more on a list is counted if it is of those that are counted. -/
theorem countP_turn {α : Type} (counted : α → Bool) (before after : List α) (one : α) :
    (before ++ one :: after).countP counted =
      (before ++ after).countP counted + (counted one).toNat := by
  rw [List.countP_append, List.countP_cons, List.countP_append]
  cases counted one with
  | false => rfl
  | true => exact (Nat.add_assoc ..).symm

theorem due_turn (about : Nat → Bool) (before after : List Disposal) (d : Disposal) :
    due about (before ++ d :: after) =
      due about (before ++ after) + (about d.proxy && d.stage.isDue).toNat :=
  countP_turn _ before after d

theorem past_turn (about : Nat → Bool) (before after : List Disposal) (d : Disposal) :
    past about (before ++ d :: after) =
      past about (before ++ after) + (about d.proxy && d.stage.isPast).toNat :=
  countP_turn _ before after d

theorem callbacks_concat (about : Nat → Bool) (trace : List (Act × Owners V)) (act : Act)
    (s : Owners V) : callbacks about (trace ++ [(act, s)]) =
      callbacks about trace + match act with
        | .called n _ => (about n).toNat
        | _ => 0 := by
  rw [callbacks, countP_turn, List.append_nil]
  cases act <;> rfl

theorem wins_concat (about : Nat → Bool) (trace : List (Act × Owners V)) (act : Act)
    (s : Owners V) : wins about (trace ++ [(act, s)]) =
      wins about trace + match act with
        | .returned n _ won => (about n && won).toNat
        | _ => 0 := by
  rw [wins, countP_turn, List.append_nil]
  cases act <;> rfl

/-- Another attempt to construct a proxy, whose guard is free if there is one, is no entry. -/
theorem Balanced.attempt (balanced : Balanced about trace s) (handle : Handle)
    (releases : Option ReceiverId) {proxy? : Option Proxy}
    (fresh : proxy?.any Proxy.isDisposed = false) :
    Balanced about (trace ++ [(.other, t)]) (s.attempt handle releases proxy?) where
  guards_eq := by
    rw [wins_concat]
    exact (guards_concat about _ handle releases fresh).trans balanced.guards_eq
  callbacks_eq := by
    rw [callbacks_concat, wins_concat]
    exact balanced.callbacks_eq

/-- A disposal that begins is about to call the callback if it has taken the guard. -/
theorem Balanced.disposing (balanced : Balanced about trace s) {proxy : Proxy}
    (made : s.attempts[n]? = some a) (there : a.proxy? = some proxy) (drops : Bool) :
    Balanced about (trace ++ [(.other, t)]) (s.disposing n a proxy drops) where
  guards_eq := by
    have free : a.isTaken = proxy.isDisposed := by rw [Attempt.isTaken, there, Option.any_some]
    have entry := guards_set (b := a.disposed proxy drops) about made rfl
    have guards_eq := balanced.guards_eq
    rw [wins_concat]
    simp only [Owners.disposing, due_turn, past_turn, List.append_nil, Stage.isDue_opening,
      Stage.isPast_opening, entry, free, Bool.and_false, Bool.toNat_false]
    omega
  callbacks_eq := by
    rw [callbacks_concat, wins_concat]
    simp only [Owners.disposing, past_turn, List.append_nil, Stage.isPast_opening, Bool.and_false,
      Bool.toNat_false]
    exact balanced.callbacks_eq

/-- Every step keeps the balance. -/
theorem Balanced.step (balanced : Balanced about trace s) (step : Step s act t) :
    Balanced about (trace ++ [(act, t)]) t := by
  have guards_eq := balanced.guards_eq
  have callbacks_eq := balanced.callbacks_eq
  cases step with
  | own handle releases => exact balanced.attempt handle releases (Proxy.fresh_of_own handle)
  | ofNative handle releases => exact balanced.attempt handle releases (Proxy.fresh_of_own handle)
  | dispose made there _ => exact balanced.disposing made there false
  | drop made there _ _ => exact balanced.disposing made there true
  | callBack next made =>
    rw [next, due_turn, past_turn] at guards_eq
    rw [next, past_turn] at callbacks_eq
    constructor
    all_goals
      simp only [callbacks_concat, wins_concat, due_turn, past_turn, Stage.isDue_following,
        Stage.isPast_following]
      simp only [Stage.isDue, Stage.isPast, Bool.and_false, Bool.and_true, Bool.toNat_false]
        at guards_eq callbacks_eq ⊢
      omega
  | release next does =>
    rw [next, due_turn, past_turn] at guards_eq
    rw [next, past_turn] at callbacks_eq
    constructor
    · rw [wins_concat, due_turn, past_turn]
      exact guards_eq
    · rw [callbacks_concat, wins_concat, past_turn]
      exact callbacks_eq
  | ends next =>
    rw [next, due_turn, past_turn] at guards_eq
    rw [next, past_turn] at callbacks_eq
    simp only [Stage.isDue, Stage.isPast, Bool.and_false, Bool.toNat_false]
      at guards_eq callbacks_eq
    constructor
    · rw [wins_concat]
      simp only
      omega
    · rw [callbacks_concat, wins_concat]
      simp only
      omega
  | handle _ _ _ | program _ _ | disposeReceiver _ =>
    constructor
    · rw [wins_concat]
      exact guards_eq
    · rw [callbacks_concat, wins_concat]
      exact callbacks_eq

/-- Every run is balanced. -/
theorem Run.balanced (about : Nat → Bool) (run : Run start trace s) : Balanced about trace s := by
  induction run with
  | nil => exact ⟨rfl, rfl⟩
  | concat _ step ih => exact ih.step step

/-! ## One proxy -/

theorem guards_of_none {about : Nat → Bool} (none : ∀ n, about n = false)
    (attempts : List Attempt) : guards about attempts = 0 := by
  simp [guards, none, List.count_eq_zero]

/-- The guards of one proxy are one if it is taken. -/
theorem guards_one (n : Nat) (attempts : List Attempt) :
    guards (· == n) attempts = (attempts[n]?.any Attempt.isTaken).toNat := by
  induction attempts generalizing n with
  | nil => rfl
  | cons a rest ih =>
    rw [guards_cons]
    cases n with
    | zero =>
      rw [guards_of_none (fun k => by simp)]
      rfl
    | succ n => simpa using ih n

end Owners

end Bindery.Lifetime
