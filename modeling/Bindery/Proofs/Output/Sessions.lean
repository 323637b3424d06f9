import Bindery.Output
import Bindery.Proofs.Submonads

/-! # Sessions over a world

A store whose effects take place in a world of its own, of whatever kind, may answer and fail as it
likes at any call, and may keep a record of the calls. A session over such a store is a function of
a journal and a world. Main statements: sessions in turn end with the failure of the first one that
fails, in the state in which that one left it (`inWorld_inTurn_eq_error_iff`), and with the number
of changes when none of them does (`inWorld_inTurn_eq_ok_iff`); and updating a file through a store
that never fails never fails (`Output.succeeds_update`).
-/

namespace Bindery

namespace Session

variable {σ α β : Type}

/-- What a session over a world ends with. -/
def inWorld (session : Session (StateM σ) α) (journal : Journal) (world : σ) :
    (Except Failure α × Journal) × σ :=
  Id.run ((session.run.run journal).run world)

theorem inWorld_bind_of_ok {first : Session (StateM σ) α} {journal later : Journal}
    {world after : σ} {value : α} (ended : first.inWorld journal world = ((.ok value, later), after))
    (next : α → Session (StateM σ) β) :
    (first >>= next).inWorld journal world = (next value).inWorld later after :=
  run_bind_of_ok ended next

theorem inWorld_bind_of_error {first : Session (StateM σ) α} {journal later : Journal}
    {world after : σ} {failure : Failure}
    (ended : first.inWorld journal world = ((.error failure, later), after))
    (next : α → Session (StateM σ) β) :
    (first >>= next).inWorld journal world = ((.error failure, later), after) :=
  run_bind_of_error ended next

/-! ## Sessions in turn -/

/-- Runs sessions one after the other and counts those that answer yes. -/
def inTurn {m : Type → Type} [Monad m] : List (Session m Bool) → Session m Nat
  | [] => return 0
  | first :: rest => do
    let changed ← first
    let others ← inTurn rest
    return others + if changed then 1 else 0

theorem inTurn_concat {m : Type → Type} [Monad m] [LawfulMonad m] (steps : List (Session m Bool))
    (last : Session m Bool) :
    inTurn (steps ++ [last]) = do
      let count ← inTurn steps
      let changed ← last
      return count + if changed then 1 else 0 := by
  induction steps with
  | nil => simp only [List.nil_append, inTurn, pure_bind]
  | cons first rest ih =>
    simp only [List.cons_append, inTurn, ih, bind_assoc, pure_bind, Nat.add_right_comm]

/-- All sessions of a list succeed one after the other, from one journal and world to another, and
so many of them answer yes. -/
inductive Passes : List (Session (StateM σ) Bool) → Journal → σ → Nat → Journal → σ → Prop
  | nil {journal : Journal} {world : σ} : Passes [] journal world 0 journal world
  | cons {first : Session (StateM σ) Bool} {rest : List (Session (StateM σ) Bool)}
      {journal middle later : Journal} {world between after : σ} {changed : Bool} {count : Nat} :
      first.inWorld journal world = ((.ok changed, middle), between) →
      Passes rest middle between count later after →
      Passes (first :: rest) journal world (count + if changed then 1 else 0) later after

/-- A session of a list fails after all before it succeeded. -/
inductive Breaks : List (Session (StateM σ) Bool) → Journal → σ → Failure → Journal → σ → Prop
  | here {first : Session (StateM σ) Bool} {rest : List (Session (StateM σ) Bool)}
      {journal later : Journal} {world after : σ} {failure : Failure} :
      first.inWorld journal world = ((.error failure, later), after) →
      Breaks (first :: rest) journal world failure later after
  | later {first : Session (StateM σ) Bool} {rest : List (Session (StateM σ) Bool)}
      {journal middle later : Journal} {world between after : σ} {changed : Bool}
      {failure : Failure} :
      first.inWorld journal world = ((.ok changed, middle), between) →
      Breaks rest middle between failure later after →
      Breaks (first :: rest) journal world failure later after

variable {first : Session (StateM σ) Bool} {steps rest : List (Session (StateM σ) Bool)}
  {journal middle later : Journal} {world between after : σ} {failure : Failure} {changed : Bool}

theorem inWorld_inTurn_cons_of_error
    (taken : first.inWorld journal world = ((.error failure, later), after)) :
    (inTurn (first :: rest)).inWorld journal world = ((.error failure, later), after) :=
  inWorld_bind_of_error taken _

/-- After a session that succeeds, the others go on from where it ended. -/
theorem inWorld_inTurn_cons_of_ok
    (taken : first.inWorld journal world = ((.ok changed, middle), between)) :
    (inTurn (first :: rest)).inWorld journal world =
      match (inTurn rest).inWorld middle between with
      | ((.ok count, later), after) => ((.ok (count + if changed then 1 else 0), later), after)
      | ((.error failure, later), after) => ((.error failure, later), after) := by
  rw [inTurn, inWorld_bind_of_ok taken]
  rcases others : (inTurn rest).inWorld middle between with ⟨⟨problem | count, last⟩, final⟩
  · exact inWorld_bind_of_error others _
  · exact inWorld_bind_of_ok others _

/-- Sessions in turn succeed exactly when each of them does in its turn. -/
theorem inWorld_inTurn_eq_ok_iff {count : Nat} :
    (inTurn steps).inWorld journal world = ((.ok count, later), after) ↔
      Passes steps journal world count later after := by
  induction steps generalizing journal world count with
  | nil =>
    constructor
    · intro ended
      cases ended
      exact .nil
    · intro passes
      cases passes
      rfl
  | cons first rest ih =>
    constructor
    · intro ended
      rcases taken : first.inWorld journal world with ⟨⟨problem | changed, middle⟩, between⟩
      · rw [inWorld_inTurn_cons_of_error taken] at ended
        cases ended
      · rw [inWorld_inTurn_cons_of_ok taken] at ended
        split at ended
        · next others =>
          cases ended
          exact .cons taken (ih.mp others)
        · cases ended
    · intro passes
      cases passes with
      | cons taken others => rw [inWorld_inTurn_cons_of_ok taken, ih.mpr others]

/-- Sessions in turn fail exactly when one of them does. -/
theorem inWorld_inTurn_eq_error_iff_breaks :
    (inTurn steps).inWorld journal world = ((.error failure, later), after) ↔
      Breaks steps journal world failure later after := by
  induction steps generalizing journal world with
  | nil => exact ⟨nofun, nofun⟩
  | cons first rest ih =>
    constructor
    · intro ended
      rcases taken : first.inWorld journal world with ⟨⟨problem | changed, middle⟩, between⟩
      · rw [inWorld_inTurn_cons_of_error taken] at ended
        cases ended
        exact .here taken
      · rw [inWorld_inTurn_cons_of_ok taken] at ended
        split at ended
        · cases ended
        · next others =>
          cases ended
          exact .later taken (ih.mp others)
    · intro breaks
      cases breaks with
      | here taken => exact inWorld_inTurn_cons_of_error taken
      | later taken others => rw [inWorld_inTurn_cons_of_ok taken, ih.mpr others]

/-- One session is the first that fails. -/
theorem breaks_iff_exists : Breaks steps journal world failure later after ↔
    ∃ index step count middle between, steps[index]? = some step ∧
      Passes (steps.take index) journal world count middle between ∧
      step.inWorld middle between = ((.error failure, later), after) := by
  constructor
  · intro breaks
    induction breaks with
    | @here first _ journal _ world _ _ taken =>
      exact ⟨0, first, 0, journal, world, rfl, .nil, taken⟩
    | later taken _ ih =>
      obtain ⟨index, step, count, middle, between, found, passes, failed⟩ := ih
      exact ⟨index + 1, step, _, middle, between, found, .cons taken passes, failed⟩
  · rintro ⟨index, step, count, middle, between, found, passes, failed⟩
    induction index generalizing steps journal world count with
    | zero =>
      cases steps with
      | nil => cases found
      | cons first rest =>
        obtain rfl : first = step := Option.some.inj found
        cases passes
        exact .here failed
    | succ index ih =>
      cases steps with
      | nil => cases found
      | cons first rest =>
        rw [List.take_succ_cons] at passes
        cases passes with
        | cons taken passes => exact .later taken (ih _ found passes)

/-- Sessions in turn fail exactly when one of them does after all before it succeeded. What that one
leaves behind is what is left. -/
theorem inWorld_inTurn_eq_error_iff :
    (inTurn steps).inWorld journal world = ((.error failure, later), after) ↔
      ∃ index step count middle between, steps[index]? = some step ∧
        Passes (steps.take index) journal world count middle between ∧
        step.inWorld middle between = ((.error failure, later), after) :=
  inWorld_inTurn_eq_error_iff_breaks.trans breaks_iff_exists

/-! ## Sessions that never fail -/

/-- The session succeeds from every journal and world. -/
def Succeeds (session : Session (StateM σ) α) : Prop :=
  ∀ journal world, ∃ value later after,
    session.inWorld journal world = ((.ok value, later), after)

namespace Succeeds

theorem pure (value : α) : Succeeds (Pure.pure value : Session (StateM σ) α) :=
  fun journal world => ⟨value, journal, world, rfl⟩

theorem bind {first : Session (StateM σ) α} {next : α → Session (StateM σ) β}
    (begins : Succeeds first) (goesOn : ∀ value, Succeeds (next value)) :
    Succeeds (first >>= next) := by
  intro journal world
  obtain ⟨value, middle, between, ended⟩ := begins journal world
  rw [inWorld_bind_of_ok ended]
  exact goesOn value middle between

theorem get : Succeeds (getThe Journal : Session (StateM σ) Journal) :=
  fun journal world => ⟨journal, journal, world, rfl⟩

theorem modify (change : Journal → Journal) :
    Succeeds (modifyThe Journal change : Session (StateM σ) PUnit) :=
  fun journal world => ⟨⟨⟩, change journal, world, rfl⟩

theorem liftStore {operation : ExceptT Failure (StateM σ) α}
    (answers : ∀ world, ∃ value after, Id.run (operation.run.run world) = (.ok value, after)) :
    Succeeds (Session.liftStore operation) := by
  intro journal world
  obtain ⟨value, after, answered⟩ := answers world
  refine ⟨value, journal, after, ?_⟩
  have lifted : (Session.liftStore operation).inWorld journal world =
      (((Id.run (operation.run.run world)).1, journal), (Id.run (operation.run.run world)).2) := rfl
  rw [lifted, answered]

/-- Sessions in turn that never fail never fail together. -/
theorem inTurn (succeed : ∀ step ∈ steps, Succeeds step) : Succeeds (Session.inTurn steps) := by
  induction steps with
  | nil => exact pure 0
  | cons first rest ih =>
    obtain ⟨here, later⟩ := List.forall_mem_cons.mp succeed
    apply bind here
    intro changed
    apply bind (ih later)
    intro others
    exact pure _

end Succeeds

end Session

/-- No call of a store fails, whatever happened before. -/
structure Store.NeverFails {σ : Type} (store : Store (StateM σ)) : Prop where
  read : ∀ path world, ∃ text after, Id.run ((store.read path).run.run world) = (.ok text, after)
  write : ∀ path content world, ∃ after,
    Id.run ((store.write path content).run.run world) = (.ok (), after)
  backup : ∀ path content world, ∃ target after,
    Id.run ((store.backup path content).run.run world) = (.ok target, after)

namespace Output

open Session

variable {σ : Type} {store : Store (StateM σ)}

/-- Tracking a file does not bear on what is done with it. -/
theorem inWorld_update_tracked (store : Store (StateM σ)) (dir : Path) (file content : String)
    (journal : Journal) (world : σ) :
    (update store dir file content true).inWorld journal world =
      (update store dir file content false).inWorld
        { journal with
          output := { journal.output with tracked := journal.output.tracked ++ [dir.join ⟨file⟩] } }
        world := rfl

/-- Writing a file and noting it, which is how updating a changed file ends. -/
theorem succeeds_write (sound : store.NeverFails) (path : Path) (content : String)
    (level : Level) (text : String) (change : Output → Output) :
    Succeeds (do
      liftLogged (Logged.write (store.writeNotes path))
      liftStore (store.write path content)
      note level text
      revise change
      return true) := by
  apply Succeeds.bind
  · exact .bind (.modify _) fun _ => .pure _
  intro _
  apply Succeeds.bind (.liftStore fun world => ⟨(), sound.write path content world⟩)
  intro _
  apply Succeeds.bind (.modify _)
  intro _
  apply Succeeds.bind (.modify _)
  intro _
  exact .pure true

theorem succeeds_update_untracked (sound : store.NeverFails) (dir : Path) (file content : String) :
    Succeeds (update store dir file content false) := by
  unfold update
  apply Succeeds.bind .get
  intro journal
  simp only [Bool.false_eq_true, if_false]
  apply Succeeds.bind (.liftStore (sound.read _))
  intro existing
  split
  · apply Succeeds.bind (.modify _)
    intro _
    apply Succeeds.bind (.modify _)
    intro _
    exact .pure false
  · split
    · apply Succeeds.bind (.liftStore (sound.backup _ _))
      intro target
      apply Succeeds.bind (.modify _)
      intro _
      exact succeeds_write sound _ content _ _ _
    · exact succeeds_write sound _ content _ _ _

/-- Updating a file through a store that never fails never fails. -/
theorem succeeds_update (sound : store.NeverFails) (dir : Path) (file content : String)
    (track : Bool) : Succeeds (update store dir file content track) := by
  intro journal world
  cases track with
  | false => exact succeeds_update_untracked sound dir file content journal world
  | true =>
    rw [inWorld_update_tracked]
    exact succeeds_update_untracked sound dir file content _ world

end Output

end Bindery
