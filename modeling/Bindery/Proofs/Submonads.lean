/-! # Computations of one kind

Some computations of a monad make up a kind when doing nothing is one of them, and doing two of them
one after the other. Such a kind goes along to computations that have a state of their own
(`Submonad.withState`) or may fail (`Submonad.withFailures`), so that what is shown of single
operations holds of whatever is built from them. Computations with both, in a world, go on where the
one before ended (`run_bind_of_ok`, `run_bind_of_error`).
-/

namespace Bindery

/-- A kind of computations that is closed under doing nothing and under doing things in turn. -/
structure Submonad (m : Type → Type) [Monad m] where
  holds : ∀ {α : Type}, m α → Prop
  pure : ∀ {α : Type} (value : α), holds (Pure.pure value)
  bind : ∀ {α β : Type} {first : m α} {next : α → m β},
    holds first → (∀ value, holds (next value)) → holds (first >>= next)

namespace Submonad

variable {m : Type → Type} [Monad m] {α β σ ε : Type} (S : Submonad m)

/-- Something may be done first on a condition. -/
theorem holds_when {condition : Prop} [Decidable condition] {first : m Unit} {next : Unit → m α}
    (holds : S.holds first) (later : ∀ done, S.holds (next done)) :
    S.holds (if condition then first >>= next else next ()) := by
  split
  · exact S.bind holds later
  · exact later ()

/-- Computations with a state of their own that are of the kind from every state on. -/
def withState (σ : Type) : Submonad (StateT σ m) where
  holds computation := ∀ state, S.holds (computation.run state)
  pure _ _ := S.pure _
  bind first next state := S.bind (first state) fun ended => next ended.1 ended.2

theorem bind_withFailures {first : ExceptT ε m α} {next : α → ExceptT ε m β}
    (holds : S.holds first.run) (later : ∀ value, S.holds (next value).run) :
    S.holds (first >>= next).run := by
  refine S.bind holds fun outcome => ?_
  cases outcome with
  | error failure => exact S.pure _
  | ok value => exact later value

/-- Computations that may fail, and compute how they end by a computation of the kind. -/
def withFailures (ε : Type) : Submonad (ExceptT ε m) where
  holds computation := S.holds computation.run
  pure _ := S.pure _
  bind := S.bind_withFailures

theorem holds_modify (change : σ → σ) : (S.withState σ).holds (modifyThe σ change) :=
  fun _ => S.pure _

theorem holds_get : (S.withState σ).holds (getThe σ) := fun _ => S.pure _

theorem holds_lift {computation : m α} (holds : S.holds computation) :
    (S.withState σ).holds (StateT.lift computation) :=
  fun _ => S.bind holds fun _ => S.pure _

theorem holds_throw (failure : ε) : (S.withFailures ε).holds (throw failure : ExceptT ε m α) :=
  S.pure _

variable [LawfulMonad m]

theorem holds_map {computation : m α} (holds : S.holds computation) (f : α → β) :
    S.holds (f <$> computation) := by
  rw [map_eq_pure_bind]
  exact S.bind holds fun _ => S.pure _

theorem holds_liftExcept {computation : m α} (holds : S.holds computation) :
    (S.withFailures ε).holds (ExceptT.lift computation) :=
  S.holds_map holds Except.ok

/-- Computations that keep books and may fail, and do nothing else but what is of the kind. -/
def withBooks (σ ε : Type) : Submonad (ExceptT ε (StateT σ m)) :=
  (S.withState σ).withFailures ε

theorem holds_look : (S.withBooks σ ε).holds (getThe σ) :=
  (S.withState σ).holds_liftExcept S.holds_get

theorem holds_book (change : σ → σ) : (S.withBooks σ ε).holds (modifyThe σ change) :=
  (S.withState σ).holds_liftExcept (S.holds_modify change)

end Submonad

/-! ## Books in a world -/

section Worlds

variable {σ τ ε α β : Type} {first : ExceptT ε (StateT τ (StateM σ)) α} {books later : τ}
  {world after : σ}

/-- Behind a computation that answers, the next one goes on with its books and in its world. -/
theorem run_bind_of_ok {value : α}
    (ended : Id.run ((first.run.run books).run world) = ((.ok value, later), after))
    (next : α → ExceptT ε (StateT τ (StateM σ)) β) :
    Id.run (((first >>= next).run.run books).run world) =
      Id.run (((next value).run.run later).run after) := by
  simp only [ExceptT.run_bind, StateT.run_bind, Id.run_bind, ended]

/-- A failure ends all that was to come. -/
theorem run_bind_of_error {failure : ε}
    (ended : Id.run ((first.run.run books).run world) = ((.error failure, later), after))
    (next : α → ExceptT ε (StateT τ (StateM σ)) β) :
    Id.run (((first >>= next).run.run books).run world) = ((.error failure, later), after) := by
  simp only [ExceptT.run_bind, StateT.run_bind, Id.run_bind, ended]
  rfl

end Worlds

end Bindery
