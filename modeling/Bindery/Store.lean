import Bindery.Log
import Bindery.Path

/-! # Stores

A store keeps generated text by path. It is given by its three operations, in whatever monad its
effects take place: reading, writing a whole file, and archiving a text beside a path under a name
that nothing has.
-/

namespace Bindery

/-- The operations of a store. -/
structure Store (m : Type → Type) where
  /-- The text at a path, or `none` where there is nothing. -/
  read : Path → ExceptT Failure m (Option String)
  /-- Replaces the whole text at a path. -/
  write : Path → String → ExceptT Failure m Unit
  /-- What the log says of a path when its text is replaced. -/
  writeNotes : Path → List Record
  /-- Archives a text beside a path and answers where. -/
  backup : Path → String → ExceptT Failure m Path

/-- The first backup name from an attempt on that is not taken, among at most `tries` + 1 names. -/
def freeBackup {m : Type → Type} [Monad m] (taken : Path → m Bool) (path : Path) (seconds : Nat) :
    (tries attempt : Nat) → m Path
  | 0, attempt => pure (path.backup seconds attempt)
  | tries + 1, attempt => do
    if ← taken (path.backup seconds attempt) then
      freeBackup taken path seconds tries (attempt + 1)
    else return path.backup seconds attempt

/-- A clock, as the seconds that it shows at each look, and the number of looks so far. -/
structure Clock where
  shown : Nat → Nat
  looks : Nat

/-- A clock that stands still. -/
def Clock.standing (seconds : Nat) : Clock := ⟨fun _ => seconds, 0⟩

/-- Looks at a clock. -/
def Clock.look (clock : Clock) : Nat × Clock :=
  (clock.shown clock.looks, { clock with looks := clock.looks + 1 })

end Bindery
