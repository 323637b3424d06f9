import Bindery.Generator.Run
import Bindery.Proofs.Output.Sessions

/-! # How runs fail

A run plans first and takes the files of the plan through an output afterwards, the manifest last.
Main statement: over any store, a run that cannot be planned ends with the failure of the plan and
leaves books and world alone; a run that can be planned ends with the failure of the first file that
fails, in the state in which that file was left; and over a store that never fails a run succeeds
exactly when it can be planned (`run_stops`). A world may hold a record of the calls of its store,
so that a world that is left alone means that there was no call.
-/

namespace Bindery.Generator

section Steps

variable {m : Type → Type} [Monad m]

/-- Reports the file of an artifact and takes it through an output. -/
def writeArtifact (store : Store m) (artifact : Artifact) : Session m Bool := do
  Session.reach artifact.file
  Output.update store artifact.dir artifact.file artifact.content true

/-- Reports the file of the manifest and takes it through an output, with the paths that the output
tracks by then. It is not tracked itself. -/
def writeTracked (g : Generator) (store : Store m) : Session m Bool := do
  Session.reach g.settings.manifestFile
  let journal ← getThe Journal
  Output.update store ⟨""⟩ g.settings.manifestFile (Manifest.text journal.output.trackedPaths) false

/-- What a run does after planning: the artifacts in their order, and the manifest last. -/
def steps (g : Generator) (store : Store m) (artifacts : List Artifact) : List (Session m Bool) :=
  artifacts.map (writeArtifact store) ++ [g.writeTracked store]

theorem steps_eq (g : Generator) (store : Store m) (artifacts : List Artifact) :
    g.steps store artifacts = artifacts.map (writeArtifact store) ++ [g.writeManifest store] := rfl

variable [LawfulMonad m]

theorem writeAll_eq_inTurn (store : Store m) (artifacts : List Artifact) :
    writeAll store artifacts = Session.inTurn (artifacts.map (writeArtifact store)) := by
  induction artifacts with
  | nil => rfl
  | cons artifact rest ih =>
    rw [writeAll, ih, List.map_cons, Session.inTurn, writeArtifact, bind_assoc]

/-- A run is a plan, its steps in turn, and a note of what they changed. -/
theorem run_eq_inTurn (g : Generator) (api : NativeApi) (store : Store m) :
    g.run api store = do
      let artifacts ← Session.liftLogged (g.plan api)
      let total ← Session.inTurn (g.steps store artifacts)
      Session.note .info s!"{total} of {artifacts.length + 1} file(s) updated"
      return total := by
  simp only [run, steps_eq, writeAll_eq_inTurn, Session.inTurn_concat, bind_assoc, pure_bind]

end Steps

variable {σ : Type} {g : Generator} {api : NativeApi} {store : Store (StateM σ)}
  {artifacts : List Artifact}

/-- A journal after planning: the records of the plan are in the log. -/
def noted (g : Generator) (api : NativeApi) (journal : Journal) : Journal :=
  { journal with events := journal.events ++ (g.plan api).records.map .logged }

theorem inWorld_liftLogged_plan (g : Generator) (api : NativeApi) (journal : Journal) (world : σ) :
    (Session.liftLogged (g.plan api)).inWorld journal world =
      (((g.plan api).outcome, g.noted api journal), world) := rfl

/-- A run that cannot be planned does nothing but write to the log. -/
theorem inWorld_run_of_unplanned {failure : Failure}
    (failed : (g.plan api).outcome = .error failure) (journal : Journal) (world : σ) :
    (g.run api store).inWorld journal world = ((.error failure, g.noted api journal), world) := by
  have planned := inWorld_liftLogged_plan g api journal world
  rw [failed] at planned
  rw [run_eq_inTurn, Session.inWorld_bind_of_error planned]

/-- A run that can be planned does its steps, and notes how many of them changed something. -/
theorem inWorld_run_of_planned (found : (g.plan api).outcome = .ok artifacts) (journal : Journal)
    (world : σ) :
    (g.run api store).inWorld journal world =
      match (Session.inTurn (g.steps store artifacts)).inWorld (g.noted api journal) world with
      | ((.ok total, last), after) =>
        ((.ok total, last.add
          (.logged ⟨.info, s!"{total} of {artifacts.length + 1} file(s) updated"⟩)), after)
      | ((.error failure, last), after) => ((.error failure, last), after) := by
  have planned := inWorld_liftLogged_plan g api journal world
  rw [found] at planned
  rw [run_eq_inTurn, Session.inWorld_bind_of_ok planned]
  rcases taken : (Session.inTurn (g.steps store artifacts)).inWorld (g.noted api journal) world with
    ⟨⟨problem | total, last⟩, left⟩
  · rw [Session.inWorld_bind_of_error taken]
  · rw [Session.inWorld_bind_of_ok taken]
    rfl

/-- A run that can be planned fails when its steps do. -/
theorem inWorld_run_eq_error_iff (found : (g.plan api).outcome = .ok artifacts) {failure : Failure}
    {journal later : Journal} {world after : σ} :
    (g.run api store).inWorld journal world = ((.error failure, later), after) ↔
      (Session.inTurn (g.steps store artifacts)).inWorld (g.noted api journal) world =
        ((.error failure, later), after) := by
  rw [inWorld_run_of_planned found]
  split
  · next taken =>
    rw [taken]
    exact ⟨nofun, nofun⟩
  · next taken => rw [taken]

/-- A run that can be planned succeeds when its steps do, and notes how many of them changed
something. -/
theorem inWorld_run_eq_ok_iff (found : (g.plan api).outcome = .ok artifacts) {count : Nat}
    {journal later : Journal} {world after : σ} :
    (g.run api store).inWorld journal world = ((.ok count, later), after) ↔
      ∃ last, (Session.inTurn (g.steps store artifacts)).inWorld (g.noted api journal) world =
          ((.ok count, last), after) ∧
        later = last.add
          (.logged ⟨.info, s!"{count} of {artifacts.length + 1} file(s) updated"⟩) := by
  rw [inWorld_run_of_planned found]
  split
  · next taken =>
    rw [taken]
    constructor
    · rintro ⟨⟩
      exact ⟨_, rfl, rfl⟩
    · rintro ⟨_, ⟨⟩, rfl⟩
      rfl
  · next taken =>
    rw [taken]
    exact ⟨nofun, nofun⟩

theorem succeeds_of_mem_steps (sound : store.NeverFails) :
    ∀ step ∈ g.steps store artifacts, Session.Succeeds step := by
  intro step member
  rcases List.mem_append.mp member with ofArtifact | ofManifest
  · obtain ⟨artifact, _, rfl⟩ := List.mem_map.mp ofArtifact
    apply Session.Succeeds.bind (.modify _)
    intro _
    exact Output.succeeds_update sound _ _ _ _
  · obtain rfl := List.mem_singleton.mp ofManifest
    apply Session.Succeeds.bind (.modify _)
    intro _
    apply Session.Succeeds.bind .get
    intro journal
    exact Output.succeeds_update sound _ _ _ _

/-- How a run over a store ends, whichever calls of the store fail. -/
structure Stops (g : Generator) (api : NativeApi) (store : Store (StateM σ)) : Prop where
  /-- Without a plan nothing is read or written, and the books stay as they are. -/
  unplanned : ∀ failure, (g.plan api).outcome = .error failure → ∀ journal world,
    (g.run api store).inWorld journal world =
      ((.error failure,
        { journal with events := journal.events ++ (g.plan api).records.map .logged }), world)
  /-- With a plan a run fails exactly when one step fails after all before it succeeded, and nothing
  happens after that. -/
  stopped : ∀ artifacts, (g.plan api).outcome = .ok artifacts →
    ∀ journal world failure later after,
      (g.run api store).inWorld journal world = ((.error failure, later), after) ↔
        ∃ index step count middle between, (g.steps store artifacts)[index]? = some step ∧
          Session.Passes ((g.steps store artifacts).take index) (g.noted api journal) world count
            middle between ∧
          step.inWorld middle between = ((.error failure, later), after)
  /-- With a plan a run succeeds exactly when all steps do. -/
  finished : ∀ artifacts, (g.plan api).outcome = .ok artifacts →
    ∀ journal world count later after,
      (g.run api store).inWorld journal world = ((.ok count, later), after) ↔
        ∃ last, Session.Passes (g.steps store artifacts) (g.noted api journal) world count last
            after ∧
          later = last.add
            (.logged ⟨.info, s!"{count} of {artifacts.length + 1} file(s) updated"⟩)
  /-- A store that never fails leaves only the plan to fail. -/
  unfailing : store.NeverFails → ∀ journal world,
    (∃ count later after, (g.run api store).inWorld journal world = ((.ok count, later), after)) ↔
      ∃ artifacts, (g.plan api).outcome = .ok artifacts

/-- Every run over every store stops at the first failure. -/
theorem run_stops (g : Generator) (api : NativeApi) (store : Store (StateM σ)) :
    g.Stops api store where
  unplanned _ failed := inWorld_run_of_unplanned failed
  stopped artifacts found journal world failure later after := by
    rw [inWorld_run_eq_error_iff found, Session.inWorld_inTurn_eq_error_iff]
  finished artifacts found journal world count later after := by
    simp only [inWorld_run_eq_ok_iff found, Session.inWorld_inTurn_eq_ok_iff]
  unfailing sound journal world := by
    constructor
    · rintro ⟨count, later, after, ran⟩
      cases found : (g.plan api).outcome with
      | error failure =>
        rw [inWorld_run_of_unplanned found] at ran
        cases ran
      | ok artifacts => exact ⟨artifacts, rfl⟩
    · rintro ⟨artifacts, found⟩
      have each : ∀ step ∈ g.steps store artifacts, Session.Succeeds step :=
        succeeds_of_mem_steps sound
      obtain ⟨count, last, after, taken⟩ :=
        Session.Succeeds.inTurn each (g.noted api journal) world
      exact ⟨count, _, after, (inWorld_run_eq_ok_iff found).mpr ⟨last, taken, rfl⟩⟩

end Bindery.Generator
