import Bindery.Generator.Run
import Bindery.Proofs.Generator.Outcome
import Bindery.Proofs.Output.InMemory

/-! # What runs leave in a memory

A run over a memory settles one item for each artifact of its plan, and one for the manifest. Main
statement: a run that ends with a count leaves at the path of each item the last text for that path,
and nothing but archives beside what was there; and another one over what it left changes nothing
exactly when its items agree (`run_settles`).
-/

namespace Bindery

namespace Code

/-- Generated files begin with the banner. -/
theorem text_sourceFile_ne_empty (name : String) (body : Code) :
    (sourceFile name body).text ≠ "" := by
  rw [sourceFile, text, textWith, pieces, String.join_cons]
  intro blank
  exact absurd (String.append_eq_empty_iff.mp blank).1 (by decide)

end Code

theorem Manifest.text_ne_empty (paths : List String) : text paths ≠ "" := by
  intro blank
  unfold text at blank
  have heading := (String.append_eq_empty_iff.mp (String.append_eq_empty_iff.mp blank).1).1
  exact absurd heading (by decide)

namespace Output

/-- What an output is asked to settle with an artifact. -/
def artifactItem (output : Output) (artifact : Artifact) : Item :=
  output.item artifact.dir artifact.file artifact.content

/-- What an output is asked to settle with the manifest of the files that it tracks. -/
def manifestItem (output : Output) (file : String) : Item :=
  output.item ⟨""⟩ file (Manifest.text output.trackedPaths)

theorem Follows.artifactItem_eq {before after : Output} {more : List Path}
    (follows : before.Follows more after) : after.artifactItem = before.artifactItem := by
  funext artifact
  simp only [artifactItem, item, follows.root]

theorem Follows.manifestItem_eq {before after : Output} {more : List Path}
    (follows : before.Follows more after) (file : String) :
    after.manifestItem file =
      { before with tracked := before.tracked ++ more }.manifestItem file := by
  simp only [manifestItem, item, trackedPaths, follows.root, follows.tracked]

theorem Follows.trans {first second third : Output} {some more : List Path}
    (left : first.Follows some second) (right : second.Follows more third) :
    first.Follows (some ++ more) third where
  root := right.root.trans left.root
  keepsBackups := right.keepsBackups.trans left.keepsBackups
  tracked := by rw [right.tracked, left.tracked, List.append_assoc]

end Output

namespace Generator

variable {g : Generator} {api : NativeApi} {artifacts : List Artifact}

/-- What a run settles below a root: the artifacts, and the manifest of their paths. -/
def items (g : Generator) (root : Path) (artifacts : List Artifact) : List Item :=
  artifacts.map (fun artifact => ⟨root.join artifact.path, artifact.content⟩) ++
    [⟨root.join (Path.join ⟨""⟩ ⟨g.settings.manifestFile⟩),
      Manifest.text (Text.sortedOnce ((artifacts.map Artifact.path).map Path.slashed))⟩]

theorem content_ne_empty_of_plan (found : (g.plan api).outcome = .ok artifacts) :
    ∀ artifact ∈ artifacts, artifact.content ≠ "" := by
  refine forall_mem_of_plan found (fun cls layout => ?_) (fun functions => ?_)
    (fun cls layout => ?_) (fun constants => ?_)
  · unfold structArtifact FlatStruct.file
    dsimp only
    apply Code.text_sourceFile_ne_empty
  · unfold functionsArtifact FreeFunctions.file FreeFunctions.nativeClassFile
    dsimp only
    apply Code.text_sourceFile_ne_empty
  · unfold wrapperArtifact Wrapper.file
    dsimp only
    apply Code.text_sourceFile_ne_empty
  · unfold versionArtifact Version.file FreeFunctions.nativeClassFile
    dsimp only
    apply Code.text_sourceFile_ne_empty

theorem items_filled (found : (g.plan api).outcome = .ok artifacts) (root : Path) :
    ∀ item ∈ g.items root artifacts, item.content ≠ "" := by
  intro item member
  simp only [items, List.mem_append, List.mem_map, List.mem_singleton] at member
  obtain ⟨artifact, planned, rfl⟩ | rfl := member
  · exact content_ne_empty_of_plan found artifact planned
  · exact Manifest.text_ne_empty _

/-- Writing artifacts settles them. -/
theorem inMemory_writeAll (artifacts : List Artifact) (journal : Journal) (world : ClockedMemory) :
    ∃ later,
      (writeAll memoryStore artifacts).inMemory journal world =
        ((.ok (ClockedMemory.changes journal.output.keepsBackups world
            (artifacts.map journal.output.artifactItem)), later),
          (artifacts.map journal.output.artifactItem).foldl
            (ClockedMemory.settle journal.output.keepsBackups) world) ∧
        journal.output.Follows (artifacts.map Artifact.path) later.output := by
  induction artifacts generalizing journal world with
  | nil => exact ⟨journal, rfl, rfl, rfl, (List.append_nil _).symm⟩
  | cons artifact rest ih =>
    obtain ⟨middle, updated, first⟩ : ∃ middle,
        (Output.update memoryStore artifact.dir artifact.file artifact.content true).inMemory
            (journal.add (.reached artifact.file)) world =
          ((.ok (world.lacks (journal.output.artifactItem artifact)), middle),
            world.settle journal.output.keepsBackups (journal.output.artifactItem artifact)) ∧
          journal.output.Follows [artifact.path] middle.output :=
      Output.inMemory_update artifact.dir artifact.file artifact.content true _ world
    obtain ⟨later, ended, others⟩ := ih middle
      (world.settle journal.output.keepsBackups (journal.output.artifactItem artifact))
    refine ⟨later, ?_, first.trans others⟩
    rw [writeAll, Session.inMemory_bind_of_ok rfl, Session.inMemory_bind_of_ok updated,
      Session.inMemory_bind_of_ok ended, first.keepsBackups, first.artifactItem_eq]
    rfl

theorem inMemory_writeManifest (journal : Journal) (world : ClockedMemory) : ∃ later,
    (g.writeManifest memoryStore).inMemory journal world =
      ((.ok (world.lacks (journal.output.manifestItem g.settings.manifestFile)), later),
        world.settle journal.output.keepsBackups
          (journal.output.manifestItem g.settings.manifestFile)) ∧
      journal.output.Follows [] later.output := by
  obtain ⟨later, updated, follows⟩ := Output.inMemory_update ⟨""⟩ g.settings.manifestFile
    (Manifest.text journal.output.trackedPaths) false
    (journal.add (.reached g.settings.manifestFile)) world
  refine ⟨later, ?_, follows⟩
  rw [writeManifest, Session.inMemory_bind_of_ok rfl, Session.inMemory_bind_of_ok rfl]
  exact updated

/-- A run that can be planned settles its items, and tracks the paths of the artifacts. -/
theorem inMemory_run_of_plan_tracked (found : (g.plan api).outcome = .ok artifacts) (root : Path)
    (keeps : Bool) (events : List Event) (world : ClockedMemory) : ∃ later,
      (g.run api memoryStore).inMemory ⟨.fresh root keeps, events⟩ world =
        ((.ok (ClockedMemory.changes keeps world (g.items root artifacts)), later),
          (g.items root artifacts).foldl (ClockedMemory.settle keeps) world) ∧
        later.output.tracked = artifacts.map Artifact.path := by
  let noted : Journal := ⟨.fresh root keeps, events ++ (g.plan api).records.map .logged⟩
  have planned : (Session.liftLogged (g.plan api)).inMemory ⟨.fresh root keeps, events⟩ world =
      ((.ok artifacts, noted), world) := by
    rw [Session.liftLogged, Session.inMemory_bind_of_ok rfl, found]
    rfl
  obtain ⟨middle, wrote, follows⟩ := inMemory_writeAll artifacts noted world
  obtain ⟨later, ended, still⟩ := inMemory_writeManifest (g := g) middle
    ((artifacts.map noted.output.artifactItem).foldl
      (ClockedMemory.settle noted.output.keepsBackups) world)
  rw [follows.manifestItem_eq, follows.keepsBackups] at ended
  rw [run, Session.inMemory_bind_of_ok planned, Session.inMemory_bind_of_ok wrote,
    Session.inMemory_bind_of_ok ended, Session.inMemory_bind_of_ok rfl]
  rw [items, ClockedMemory.changes_concat, List.foldl_append]
  exact ⟨_, rfl, (follows.trans still).tracked.trans (by simp [noted, Output.fresh])⟩

/-- A run that can be planned settles its items. -/
theorem inMemory_run_of_plan (found : (g.plan api).outcome = .ok artifacts) (root : Path)
    (keeps : Bool) (events : List Event) (world : ClockedMemory) : ∃ later,
      (g.run api memoryStore).inMemory ⟨.fresh root keeps, events⟩ world =
        ((.ok (ClockedMemory.changes keeps world (g.items root artifacts)), later),
          (g.items root artifacts).foldl (ClockedMemory.settle keeps) world) := by
  obtain ⟨later, ended, _⟩ := inMemory_run_of_plan_tracked found root keeps events world
  exact ⟨later, ended⟩

/-- A run that cannot be planned leaves the memory alone. -/
theorem inMemory_run_of_failure {failure : Failure} (failed : (g.plan api).outcome = .error failure)
    (journal : Journal) (world : ClockedMemory) : ∃ later,
      (g.run api memoryStore).inMemory journal world = ((.error failure, later), world) := by
  have planned : (Session.liftLogged (g.plan api)).inMemory journal world =
      ((.error failure,
        { journal with events := journal.events ++ (g.plan api).records.map .logged }), world) := by
    rw [Session.liftLogged, Session.inMemory_bind_of_ok rfl, failed]
    rfl
  rw [run, Session.inMemory_bind_of_error planned]
  exact ⟨_, rfl⟩

/-- A run with fresh books that ends with a count settles the items of a plan. -/
theorem exists_plan_of_run {root : Path} {keeps : Bool} {events : List Event}
    {world after : ClockedMemory} {journal : Journal} {count : Nat}
    (ran : (g.run api memoryStore).inMemory ⟨.fresh root keeps, events⟩ world =
      ((.ok count, journal), after)) :
    ∃ artifacts, (g.plan api).outcome = .ok artifacts ∧
      count = ClockedMemory.changes keeps world (g.items root artifacts) ∧
      after = (g.items root artifacts).foldl (ClockedMemory.settle keeps) world := by
  cases found : (g.plan api).outcome with
  | error failure =>
    obtain ⟨later, ended⟩ := inMemory_run_of_failure found ⟨.fresh root keeps, events⟩ world
    rw [ended] at ran
    cases ran
  | ok artifacts =>
    obtain ⟨later, ended⟩ := inMemory_run_of_plan found root keeps events world
    rw [ended] at ran
    cases ran
    exact ⟨artifacts, rfl, rfl, rfl⟩

/-- What a run leaves: at the path of each item the last text for that path, and nothing but
archives beside what was there. Another run with fresh books over that, at whatever time, changes
nothing exactly when the items agree. -/
theorem run_settles {root : Path} {keeps : Bool} {events : List Event}
    {world after : ClockedMemory} {journal : Journal} {count : Nat}
    (ran : (g.run api memoryStore).inMemory ⟨.fresh root keeps, events⟩ world =
      ((.ok count, journal), after)) :
    ∃ artifacts, (g.plan api).outcome = .ok artifacts ∧
      Settles keeps (g.items root artifacts) world.memory after.memory ∧
      ∀ keepsThen eventsThen clockThen, ∃ again later left,
        (g.run api memoryStore).inMemory ⟨.fresh root keepsThen, eventsThen⟩
            ⟨after.memory, clockThen⟩ = ((.ok again, later), left) ∧
          (again = 0 ∧ left.memory = after.memory ↔ Agree (g.items root artifacts)) := by
  obtain ⟨artifacts, found, _, rfl⟩ := exists_plan_of_run ran
  have filled := items_filled found root
  have settles := Settles.foldl keeps world filled
  refine ⟨artifacts, found, settles, fun keepsThen eventsThen clockThen => ?_⟩
  let left : ClockedMemory :=
    ⟨((g.items root artifacts).foldl (ClockedMemory.settle keeps) world).memory, clockThen⟩
  obtain ⟨later, ended⟩ := inMemory_run_of_plan found root keepsThen eventsThen left
  have agree : (∀ item ∈ g.items root artifacts, left.lacks item = false) ↔
      Agree (g.items root artifacts) := settles.stand_iff_agree filled
  refine ⟨_, later, _, ended, ?_⟩
  rw [← agree]
  constructor
  · rintro ⟨none, _⟩
    exact ClockedMemory.changes_eq_zero_iff.mp none
  · intro stand
    refine ⟨ClockedMemory.changes_eq_zero_iff.mpr stand, ?_⟩
    rw [ClockedMemory.foldl_settle_of_stands keepsThen stand]

/-- An interface without classes and functions, and a generator that adds none. -/
def bare : Generator :=
  .plain { Settings.default with syntheticClasses := [] } Classification.empty Dictionary.empty

/-- A memory with an older file of free functions, at a path with a slash too many. -/
def older : Memory := ⟨[(⟨"gen//Interop/libcef.g.cs"⟩, "// older\n")]⟩

theorem run_settles_older : ∃ count journal after artifacts,
    (bare.run .empty memoryStore).inMemory ⟨.fresh ⟨"gen"⟩ true, []⟩ ⟨older, .standing 7⟩ =
        ((.ok count, journal), after) ∧
      (bare.plan .empty).outcome = .ok artifacts ∧
      Settles true (bare.items ⟨"gen"⟩ artifacts) older after.memory ∧
      ∀ keepsThen eventsThen clockThen, ∃ again later left,
        (bare.run .empty memoryStore).inMemory ⟨.fresh ⟨"gen"⟩ keepsThen, eventsThen⟩
            ⟨after.memory, clockThen⟩ = ((.ok again, later), left) ∧
          (again = 0 ∧ left.memory = after.memory ↔
            Agree (bare.items ⟨"gen"⟩ artifacts)) := by
  have checked : (bare.check .empty).outcome = .ok ⟨0, 0, 0, 0, 0, []⟩ := by cbv
  obtain ⟨planned, found⟩ := exists_plan_iff.mpr ⟨⟨_, checked⟩, none, rfl⟩
  obtain ⟨journal, ran⟩ := inMemory_run_of_plan found ⟨"gen"⟩ true [] ⟨older, .standing 7⟩
  obtain ⟨artifacts, same, settles⟩ := run_settles ran
  exact ⟨_, journal, _, artifacts, ran, same, settles⟩

end Generator

end Bindery
