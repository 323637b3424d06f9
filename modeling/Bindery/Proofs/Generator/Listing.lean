import Mathlib
import Bindery.Proofs.Generator.Places
import Bindery.Proofs.Output.Tracked
import Bindery.Proofs.Source.Manifest

/-! # What the manifest of a run names

The manifest of a run names the paths that the run tracked, with slashes between their components
and with entities in place of some characters. Main statement: read back and joined to the root,
these names lead to the artifacts of the plan and to nothing else, however the directories of the
settings are spelled, as long as they are texts, and each of the artifacts is there (`run_lists`).
A directory that is no text is listed as it is shown, and what is listed then does not lead to the
artifacts in it (`LeadsTo.isText`, `not_leadsTo_strayed`).
-/

namespace Bindery

/-- How listed names relate to a manifest and to what is in a memory in the end. -/
structure Lists (root : Path) (artifacts : List Artifact) (manifest : Path) (after : Memory)
    (listed : List String) : Prop where
  increasing : listed.Pairwise (· < ·)
  manifest : ∃ text, after.get? manifest = some text ∧ Manifest.includes text = listed
  present : ∀ artifact ∈ artifacts, after.contains (root.join artifact.path) = true

/-- Joined to a root, listed names lead to the artifacts of a plan and to nothing else. -/
structure LeadsTo (root : Path) (artifacts : List Artifact) (listed : List String) : Prop where
  sound : ∀ name ∈ listed, ∃ artifact ∈ artifacts,
    (root.join ⟨name⟩).same (root.join artifact.path) = true
  complete : ∀ artifact ∈ artifacts, ∃ name ∈ listed,
    (root.join ⟨name⟩).same (root.join artifact.path) = true

/-- Where listed names lead below a root that is a text, the paths are texts. -/
theorem LeadsTo.isText {root : Path} {artifacts : List Artifact} {listed : List String}
    (leads : LeadsTo root artifacts listed) (text : root.isText = true) :
    ∀ artifact ∈ artifacts, artifact.path.isText = true := by
  intro artifact planned
  obtain ⟨name, _, same⟩ := leads.complete artifact planned
  have named : (root.join ⟨name⟩).isText = true :=
    Path.isText_join text (RawText.isText_ofText name)
  rw [Path.isText_of_same same] at named
  exact Path.isText_of_isText_join named

namespace Output

variable {output : Output}

/-- The manifest of the tracked paths names them. -/
theorem includes_trackedPaths :
    Manifest.includes (Manifest.text output.trackedPaths) = output.trackedPaths := by
  rw [Manifest.includes_text, trackedPaths, Text.sortedOnce_eq_self (Text.pairwise_sortedOnce _)]

/-- Where the paths of artifacts are tracked and are texts, what is listed leads to them. -/
theorem leadsTo_trackedPaths {artifacts : List Artifact} (root : Path)
    (tracked : output.tracked = artifacts.map Artifact.path)
    (texts : ∀ artifact ∈ artifacts, artifact.path.isText = true) :
    LeadsTo root artifacts output.trackedPaths := by
  have leads (artifact) (planned : artifact ∈ artifacts) :
      (root.join ⟨artifact.path.slashed⟩).same (root.join artifact.path) = true := by
    rw [Path.ofText_slashed.mpr (texts artifact planned)]
    exact Path.same_join_of_same root artifact.path.same_respelled
  constructor
  · intro name listed
    obtain ⟨path, inside, rfl⟩ := mem_trackedPaths.mp listed
    rw [tracked] at inside
    obtain ⟨artifact, planned, rfl⟩ := List.mem_map.mp inside
    exact ⟨artifact, planned, leads artifact planned⟩
  · intro artifact planned
    have inside : artifact.path ∈ output.tracked := tracked ▸ List.mem_map_of_mem planned
    exact ⟨_, mem_trackedPaths.mpr ⟨_, inside, rfl⟩, leads artifact planned⟩

end Output

namespace Generator

variable {g : Generator} {api : NativeApi} {artifacts : List Artifact}

/-- The items of a run end with the manifest. -/
theorem lastText?_manifestPath (root : Path) (artifacts : List Artifact) :
    lastText? (g.items root artifacts) (g.manifestPath root) =
      some (Manifest.text (Text.sortedOnce ((artifacts.map Artifact.path).map Path.slashed))) := by
  rw [items, lastText?_concat]
  exact if_pos (Path.same_self _)

/-- Artifacts are planned for the directories of the settings. -/
theorem dir_mem_of_plan (found : (g.plan api).outcome = .ok artifacts) :
    ∀ artifact ∈ artifacts, artifact.dir ∈ g.settings.directories := by
  have struct : g.settings.structDir ∈ g.settings.directories := by simp [Settings.directories]
  have functions : g.settings.functionsDir ∈ g.settings.directories := by
    simp [Settings.directories]
  have wrapper : g.settings.wrapperDir ∈ g.settings.directories := by simp [Settings.directories]
  exact forall_mem_of_plan found (fun _ _ => struct) (fun _ => functions) (fun _ _ => wrapper)
    fun _ => functions

/-- In directories that are texts, the paths of the artifacts are texts. -/
theorem isText_of_plan (found : (g.plan api).outcome = .ok artifacts)
    (texts : ∀ dir ∈ g.settings.directories, dir.isText = true) :
    ∀ artifact ∈ artifacts, artifact.path.isText = true := fun artifact planned =>
  Path.isText_join (texts _ (dir_mem_of_plan found artifact planned)) (RawText.isText_ofText _)

/-- A run with fresh books that ends with a count leaves a manifest that names what was tracked, and
leaves each artifact of its plan. Where the paths of these are texts, as they are in directories
that are texts, what is listed leads to the artifacts and to nothing else. -/
theorem run_lists {root : Path} {keeps : Bool} {events : List Event} {world after : ClockedMemory}
    {journal : Journal} {count : Nat}
    (ran : (g.run api memoryStore).inMemory ⟨.fresh root keeps, events⟩ world =
      ((.ok count, journal), after)) :
    ∃ artifacts, (g.plan api).outcome = .ok artifacts ∧
      Lists root artifacts (g.manifestPath root) after.memory journal.output.trackedPaths ∧
      ((∀ artifact ∈ artifacts, artifact.path.isText = true) →
        LeadsTo root artifacts journal.output.trackedPaths) ∧
      ((∀ dir ∈ g.settings.directories, dir.isText = true) →
        ∀ artifact ∈ artifacts, artifact.path.isText = true) := by
  obtain ⟨artifacts, found, _, left⟩ := exists_plan_of_run ran
  obtain ⟨later, ended, tracked⟩ := inMemory_run_of_plan_tracked found root keeps events world
  obtain rfl : journal = later := by
    rw [ended] at ran
    cases ran
    rfl
  have settles : Settles keeps (g.items root artifacts) world.memory after.memory := by
    rw [left]
    exact Settles.foldl keeps world (items_filled found root)
  refine ⟨artifacts, found, ⟨Text.pairwise_sortedOnce _, ?_, ?_⟩,
    Output.leadsTo_trackedPaths root tracked, isText_of_plan found⟩
  · have names : journal.output.trackedPaths =
        Text.sortedOnce ((artifacts.map Artifact.path).map Path.slashed) := by
      rw [Output.trackedPaths, tracked]
    have written := settles.latest _ _ (lastText?_manifestPath root artifacts)
    rw [← names] at written
    exact ⟨_, written, Output.includes_trackedPaths⟩
  · intro artifact planned
    have inside : ⟨root.join artifact.path, artifact.content⟩ ∈ g.items root artifacts :=
      List.mem_append_left _ (List.mem_map.mpr ⟨artifact, planned, rfl⟩)
    exact settles.contains inside

/-- A generator with a directory that is spelled with slashes and dots to spare. -/
def oddlySpelled : Generator :=
  .plain { Settings.default with functionsDir := ⟨"./Interop//."⟩, syntheticClasses := [] }
    Classification.empty Dictionary.empty

theorem run_lists_oddlySpelled : ∃ count journal after artifacts,
    (oddlySpelled.run .empty memoryStore).inMemory ⟨.fresh ⟨"gen/"⟩ true, []⟩
        ⟨.empty, .standing 7⟩ = ((.ok count, journal), after) ∧
      (oddlySpelled.plan .empty).outcome = .ok artifacts ∧
      Lists ⟨"gen/"⟩ artifacts ⟨"gen/CefGlue.g.props"⟩ after.memory
        journal.output.trackedPaths ∧
      LeadsTo ⟨"gen/"⟩ artifacts journal.output.trackedPaths := by
  have checked : (oddlySpelled.check .empty).outcome = .ok ⟨0, 0, 0, 0, 0, []⟩ := by cbv
  obtain ⟨planned, found⟩ := exists_plan_iff.mpr ⟨⟨_, checked⟩, none, rfl⟩
  obtain ⟨journal, ran⟩ := inMemory_run_of_plan found ⟨"gen/"⟩ true [] ⟨.empty, .standing 7⟩
  obtain ⟨artifacts, same, lists, leads, texts⟩ := run_lists ran
  have manifest : oddlySpelled.manifestPath ⟨"gen/"⟩ = ⟨"gen/CefGlue.g.props"⟩ := by decide +kernel
  rw [manifest] at lists
  exact ⟨_, journal, _, artifacts, ran, same, lists, leads (texts (by decide +kernel))⟩

/-- A generator with a directory whose name is one byte that begins no character. -/
def strayed : Generator :=
  .plain { Settings.default with functionsDir := ⟨[.stray [0xff]]⟩, syntheticClasses := [] }
    Classification.empty Dictionary.empty

/-- A directory that is no text is listed as it is shown, and that does not lead there. -/
theorem not_leadsTo_strayed : ∃ count journal after artifacts,
    (strayed.run .empty memoryStore).inMemory ⟨.fresh ⟨"gen"⟩ true, []⟩
        ⟨.empty, .standing 7⟩ = ((.ok count, journal), after) ∧
      (strayed.plan .empty).outcome = .ok artifacts ∧
      journal.output.trackedPaths = ["\uFFFD/libcef.g.cs"] ∧
      ¬LeadsTo ⟨"gen"⟩ artifacts journal.output.trackedPaths := by
  have found : (strayed.plan .empty).outcome =
      .ok [functionsArtifact (strayed.context (strayed.completed .empty)) []] :=
    outcome_plan_eq_ok_iff.mpr ⟨by cbv, [], none, by cbv, rfl, rfl⟩
  obtain ⟨journal, ran, tracked⟩ :=
    inMemory_run_of_plan_tracked found ⟨"gen"⟩ true [] ⟨.empty, .standing 7⟩
  have listed : journal.output.trackedPaths = ["\uFFFD/libcef.g.cs"] := by
    rw [Output.trackedPaths, tracked]
    decide +kernel
  refine ⟨_, journal, _, _, ran, found, listed, fun leads => ?_⟩
  have text := leads.isText (by decide) _ List.mem_cons_self
  exact absurd text (by decide +kernel)

end Generator

end Bindery
