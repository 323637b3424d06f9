import Mathlib
import Bindery.Proofs.Generator.Places
import Bindery.Proofs.Generator.Stopping
import Bindery.Proofs.Output.Foretelling

/-! # Dry runs

A dry run does what a run does, over a store that reads what is on the disk and keeps in memory what
it is given. Main statement: of a run without backups that succeeds, a dry run on the same machine
foretells the answer, the books and the paths that are written, and leaves the machine as it was, as
long as none of the paths has a `..` and no two of them lead to one place (`dry_run_foretells_run`).
That two paths differ is not enough for that (`dry_run_misses_replaced_file`).
-/

namespace Bindery.Generator

variable {g : Generator} {api : NativeApi} {base machine : Machine}
  {root path : Path} {text : String}

theorem foretold_writeArtifact (base : Machine) (artifact : Artifact)
    (plain : Component.parent ∉ (root.join artifact.path).components) :
    Foretold base root [root.join artifact.path]
      (writeArtifact Machine.fileSystem.store artifact)
      (writeArtifact Machine.fileSystem.store.recorded artifact)
      (writeArtifact Machine.fileSystem.dryRunStore artifact) := by
  have written := Foretold.updateTracked base artifact.content plain
  exact .bind (.reach artifact.file) (fun _ => written) nofun

theorem foretold_writeManifest (base : Machine) (g : Generator)
    (plain : Component.parent ∉ (g.manifestPath root).components) :
    Foretold base root [g.manifestPath root] (g.writeManifest Machine.fileSystem.store)
      (g.writeManifest Machine.fileSystem.store.recorded)
      (g.writeManifest Machine.fileSystem.dryRunStore) := by
  have written (output : Output) : Foretold base root [g.manifestPath root]
      (Output.update Machine.fileSystem.store ⟨""⟩ g.settings.manifestFile
        (Manifest.text output.trackedPaths) false)
      (Output.update Machine.fileSystem.store.recorded ⟨""⟩ g.settings.manifestFile
        (Manifest.text output.trackedPaths) false)
      (Output.update Machine.fileSystem.dryRunStore ⟨""⟩ g.settings.manifestFile
        (Manifest.text output.trackedPaths) false) := .update base _ plain
  rw [writeManifest, writeManifest, writeManifest]
  exact .bind (.reach g.settings.manifestFile) (fun _ => .withOutput written) (by simp)

theorem inWorld_writeArtifact_of_holds (artifact : Artifact) (journal : Journal)
    (backupless : journal.output.keepsBackups = false)
    (reaches : journal.output.root.join artifact.path = path) (holds : machine.disk.Holds path text)
    (differs : text ≠ artifact.content) :
    (writeArtifact Machine.fileSystem.store artifact).inWorld journal machine =
      ((.ok true, ((journal.add (.reached artifact.file)).tracking artifact.path).updated []
        artifact.file), { machine with
          disk := machine.disk.put (machine.disk.place path)
            (.file artifact.content.toUTF8) }) := by
  rw [writeArtifact, Session.inWorld_bind_of_ok rfl, Output.inWorld_update_tracked]
  exact Output.inWorld_update_of_holds backupless reaches holds differs

theorem inWorld_writeManifest_of_holds (g : Generator) (journal : Journal)
    (backupless : journal.output.keepsBackups = false)
    (reaches : g.manifestPath journal.output.root = path) (holds : machine.disk.Holds path text)
    {paths : List String} (listed : journal.output.trackedPaths = paths)
    (differs : text ≠ Manifest.text paths) :
    (g.writeManifest Machine.fileSystem.store).inWorld journal machine =
      ((.ok true, (journal.add (.reached g.settings.manifestFile)).updated []
        g.settings.manifestFile), { machine with
          disk := machine.disk.put (machine.disk.place path)
            (.file (Manifest.text paths).toUTF8) }) := by
  subst listed
  rw [writeManifest, Session.inWorld_bind_of_ok rfl, Session.inWorld_bind_of_ok rfl]
  exact Output.inWorld_update_of_holds backupless reaches holds differs

theorem within_writeManifest_of_holds (g : Generator) {journal : Journal} {memory : Memory}
    (reaches : g.manifestPath journal.output.root = path) (vacant : memory.get? path = none)
    (holds : machine.disk.Holds path (Manifest.text journal.output.trackedPaths)) :
    (g.writeManifest Machine.fileSystem.dryRunStore).within journal memory machine =
      (((.ok false, (journal.add (.reached g.settings.manifestFile)).found
        g.settings.manifestFile), memory), machine) := by
  subst reaches
  have read := run_read_dry machine vacant
  rw [holds.read?] at read
  rw [writeManifest, Session.within_bind_of_ok rfl, Session.within_bind_of_ok rfl]
  exact Output.within_update_of_same read rfl

/-- After planning, a dry run stays abreast of a run. -/
theorem foretold_steps {artifacts : List Artifact} (found : (g.plan api).outcome = .ok artifacts)
    (plain : ∀ path ∈ g.places api root, Component.parent ∉ path.components)
    (apart : ((g.places api root).map base.disk.place).Nodup) :
    Foretold base root (g.places api root)
      (Session.inTurn (g.steps Machine.fileSystem.store artifacts))
      (Session.inTurn (g.steps Machine.fileSystem.store.recorded artifacts))
      (Session.inTurn (g.steps Machine.fileSystem.dryRunStore artifacts)) := by
  have places : g.places api root =
      (artifacts.map fun artifact => root.join artifact.path) ++ [g.manifestPath root] := by
    rw [← paths_items found, items, List.map_append, List.map_map]
    rfl
  rw [places] at plain apart ⊢
  obtain ⟨plainArtifacts, plainManifest⟩ := List.forall_mem_append.mp plain
  rw [List.map_append] at apart
  obtain ⟨apartArtifacts, _, beside⟩ := List.nodup_append.mp apart
  have artifactsFirst : Foretold base root (artifacts.map fun artifact => root.join artifact.path)
      (Session.inTurn (artifacts.map (writeArtifact Machine.fileSystem.store)))
      (Session.inTurn (artifacts.map (writeArtifact Machine.fileSystem.store.recorded)))
      (Session.inTurn (artifacts.map (writeArtifact Machine.fileSystem.dryRunStore))) :=
    .inTurn (fun artifact member => foretold_writeArtifact base artifact
      (plainArtifacts _ (List.mem_map_of_mem member))) apartArtifacts
  have manifestLast (count : Nat) := (foretold_writeManifest base g
    (plainManifest _ List.mem_cons_self)).bind
      (fun changed => Foretold.pure (count + if changed then 1 else 0)) (List.forall_mem_nil _)
  simp only [List.append_nil] at manifestLast
  simp only [steps_eq, Session.inTurn_concat]
  refine artifactsFirst.bind manifestLast fun path member same => ?_
  obtain rfl := List.mem_singleton.mp member
  exact beside _ same _ List.mem_cons_self rfl

theorem within_liftLogged_plan {τ σ : Type} {artifacts : List Artifact}
    (found : (g.plan api).outcome = .ok artifacts) (journal : Journal) (kept : τ) (world : σ) :
    (Session.liftLogged (g.plan api)).within journal kept world =
      (((.ok artifacts, g.noted api journal), kept), world) := by
  rw [← found]
  rfl

/-- A run that can be planned succeeds when its steps do. -/
theorem within_run_of_plan {τ σ : Type} {store : Store (StateT τ (StateM σ))}
    {artifacts : List Artifact} (found : (g.plan api).outcome = .ok artifacts)
    {journal last : Journal} {kept still : τ} {world after : σ} {count : Nat}
    (taken : (Session.inTurn (g.steps store artifacts)).within (g.noted api journal) kept world =
      (((.ok count, last), still), after)) :
    (g.run api store).within journal kept world =
      (((.ok count, last.add
        (.logged ⟨.info, s!"{count} of {artifacts.length + 1} file(s) updated"⟩)), still),
          after) := by
  rw [run_eq_inTurn, Session.within_bind_of_ok (within_liftLogged_plan found journal kept world),
    Session.within_bind_of_ok taken]
  rfl

/-- A dry run foretells a run without backups that succeeds, as long as none of its paths has a `..`
and no two of them lead to one place. -/
theorem dry_run_foretells_run {journal later : Journal} {after : Machine} {count : Nat}
    (backupless : journal.output.keepsBackups = false)
    (plain : ∀ path ∈ g.places api journal.output.root, Component.parent ∉ path.components)
    (apart : ((g.places api journal.output.root).map machine.disk.place).Nodup)
    (ran : (g.run api Machine.fileSystem.store).inWorld journal machine =
      ((.ok count, later), after)) :
    ∃ written foretold memory,
      (g.run api Machine.fileSystem.store.recorded).within journal [] machine =
        (((.ok count, later), written), after) ∧
      (g.run api Machine.fileSystem.dryRunStore).within journal .empty machine =
        (((.ok count, foretold), memory), machine) ∧
      foretold.output = later.output ∧ memory.paths.Perm written := by
  cases found : (g.plan api).outcome with
  | error failure =>
    rw [inWorld_run_of_unplanned found] at ran
    cases ran
  | ok artifacts =>
    obtain ⟨last, taken, rfl⟩ := (inWorld_run_eq_ok_iff found).mp ran
    have abreast := Abreast.refl machine.disk (g.noted api journal) backupless
    obtain ⟨written, foretold, memory, _, recorded, dry, ends⟩ :=
      foretold_steps found plain apart abreast nofun taken
    refine ⟨written, _, memory, within_run_of_plan found recorded, within_run_of_plan found dry,
      ends.output, ?_⟩
    have pending := ends.pending
    rw [List.nil_append] at pending
    rw [← pending]
    exact List.mergeSort_perm _ _

/-- A generator that is to write the free functions at the root of its output, beside a manifest of
some name. -/
def flat (manifestFile : String) : Generator :=
  .plain { Settings.default with functionsDir := ⟨""⟩, manifestFile, syntheticClasses := [] }
    Classification.empty Dictionary.empty

/-- The free functions of an interface that has none. -/
def noFunctions (manifestFile : String) : Artifact :=
  functionsArtifact ((flat manifestFile).context ((flat manifestFile).completed .empty)) []

theorem outcome_plan_flat (manifestFile : String) :
    ((flat manifestFile).plan .empty).outcome = .ok [noFunctions manifestFile] := by
  have sorted : ((flat manifestFile).completed .empty).sortedClasses = [] := List.mergeSort_nil
  exact outcome_plan_eq_ok_iff.mpr ⟨outcome_checkRoles_eq_ok_iff.mpr nofun, [], none,
    outcome_layouts_eq_ok_iff.mpr ⟨sorted.symm, nofun⟩, rfl, rfl⟩

/-- The journal of a run that has planned this. -/
def planned (manifestFile : String) : Journal :=
  (flat manifestFile).noted .empty ⟨.fresh ⟨""⟩ false, []⟩

theorem join_noFunctions (manifestFile : String) :
    Path.join ⟨""⟩ (noFunctions manifestFile).path = ⟨"libcef.g.cs"⟩ := by
  have joined : Path.join ⟨""⟩ (Path.join ⟨""⟩ ⟨"libcef.g.cs"⟩) = ⟨"libcef.g.cs"⟩ := by decide
  exact joined

theorem places_flat (manifestFile : String) :
    (flat manifestFile).places .empty ⟨""⟩ =
      [⟨"libcef.g.cs"⟩, (flat manifestFile).manifestPath ⟨""⟩] := by
  rw [← paths_items (outcome_plan_flat manifestFile), ← join_noFunctions manifestFile]
  rfl

theorem trackedPaths_functions :
    (Output.mk ⟨""⟩ false [Path.join ⟨""⟩ ⟨"libcef.g.cs"⟩] 1 0).trackedPaths = ["libcef.g.cs"] := by
  decide +kernel

/-- A machine with the files of such a run in its working directory. -/
def holding (functions manifest : String) : Machine where
  disk := ⟨[("libcef.g.cs", .file functions.toUTF8), ("files.props", .file manifest.toUTF8)], []⟩
  clock := .standing 0

section Machines

variable (functions manifest : String)

theorem holding_functions : (holding functions manifest).disk.Holds ⟨"libcef.g.cs"⟩ functions where
  plain := by decide
  taken := Disk.takes_of_accepted (by cbv) (by decide)
  names := by decide
  stands := rfl
  parents := rfl

/-- The same file by another path. -/
theorem holding_functions_again :
    (holding functions manifest).disk.Holds ⟨"./libcef.g.cs"⟩ functions where
  plain := by decide
  taken := Disk.takes_of_accepted (by cbv) (by decide)
  names := by decide
  stands := rfl
  parents := by
    have parent : (Path.mk "./libcef.g.cs").parent = ⟨"."⟩ := by decide
    have accepted : Disk.refusal? ⟨"."⟩ = none := by cbv
    rw [Disk.makeParents, parent, accepted]
    rfl

theorem holding_manifest : (holding functions manifest).disk.Holds ⟨"files.props"⟩ manifest where
  plain := by decide
  taken := Disk.takes_of_accepted (by cbv) (by decide)
  names := by decide
  stands := rfl
  parents := rfl

end Machines

/-- A run of such a generator that finds other texts writes both files. -/
theorem inWorld_run_flat {manifestFile functions : String}
    (differs : functions ≠ (noFunctions manifestFile).content) (manifest : String)
    (reaches : (flat manifestFile).manifestPath ⟨""⟩ = path)
    (holds : (holding (noFunctions manifestFile).content manifest).disk.Holds path text)
    (differsToo : text ≠ Manifest.text ["libcef.g.cs"]) : ∃ later after,
    ((flat manifestFile).run .empty Machine.fileSystem.store).inWorld ⟨.fresh ⟨""⟩ false, []⟩
      (holding functions manifest) = ((.ok 2, later), after) := by
  have first := inWorld_writeArtifact_of_holds (noFunctions manifestFile)
    (planned manifestFile) rfl (join_noFunctions manifestFile)
    (holding_functions functions manifest) differs
  have second := inWorld_writeManifest_of_holds (flat manifestFile)
    ((((planned manifestFile).add (.reached (noFunctions manifestFile).file)).tracking
      (noFunctions manifestFile).path).updated [] (noFunctions manifestFile).file)
    rfl reaches holds trackedPaths_functions differsToo
  exact ⟨_, _, (inWorld_run_eq_ok_iff (outcome_plan_flat manifestFile)).mpr
    ⟨_, Session.inWorld_inTurn_eq_ok_iff.mpr (.cons first (.cons second .nil)), rfl⟩⟩

theorem dry_run_foretells_run_flat : ∃ count later after written foretold memory,
    let g := flat "files.props"
    let journal : Journal := ⟨.fresh ⟨""⟩ false, []⟩
    let machine := holding "" ""
    journal.output.keepsBackups = false ∧
      (∀ path ∈ g.places .empty journal.output.root, Component.parent ∉ path.components) ∧
      ((g.places .empty journal.output.root).map machine.disk.place).Nodup ∧
      (g.run .empty Machine.fileSystem.store).inWorld journal machine =
        ((.ok count, later), after) ∧
      (g.run .empty Machine.fileSystem.store.recorded).within journal [] machine =
        (((.ok count, later), written), after) ∧
      (g.run .empty Machine.fileSystem.dryRunStore).within journal .empty machine =
        (((.ok count, foretold), memory), machine) ∧
      foretold.output = later.output ∧ memory.paths.Perm written := by
  have manifest : (flat "files.props").manifestPath ⟨""⟩ = ⟨"files.props"⟩ := by decide
  have places := places_flat "files.props"
  rw [manifest] at places
  have plain : ∀ path ∈ (flat "files.props").places .empty ⟨""⟩,
      Component.parent ∉ path.components := by
    rw [places]
    decide
  have apart : (((flat "files.props").places .empty ⟨""⟩).map
      (holding "" "").disk.place).Nodup := by
    rw [places]
    decide
  have differs : "" ≠ (noFunctions "files.props").content := by decide +kernel
  obtain ⟨later, after, ran⟩ := inWorld_run_flat differs "" manifest
    (holding_manifest (noFunctions "files.props").content "") (by decide +kernel)
  have backupless : (Journal.mk (.fresh ⟨""⟩ false) []).output.keepsBackups = false := rfl
  obtain ⟨written, foretold, memory, ends⟩ :=
    dry_run_foretells_run backupless plain apart ran
  exact ⟨2, later, after, written, foretold, memory, backupless, plain, apart, ran, ends⟩

/-- A dry run of such a generator that finds another text in place of the free functions, and the
manifest as it is to be, keeps the first alone. -/
theorem within_run_flat {manifestFile functions : String} {manifest : String}
    (differs : functions ≠ (noFunctions manifestFile).content)
    (reaches : (flat manifestFile).manifestPath ⟨""⟩ = path)
    (other : Path.same ⟨"libcef.g.cs"⟩ path = false)
    (holds : (holding functions manifest).disk.Holds path (Manifest.text ["libcef.g.cs"])) :
    ∃ later memory,
      ((flat manifestFile).run .empty Machine.fileSystem.dryRunStore).within
        ⟨.fresh ⟨""⟩ false, []⟩ .empty (holding functions manifest) =
          (((.ok 1, later), memory), holding functions manifest) := by
  have plain : Component.parent ∉ (Path.join ⟨""⟩ (noFunctions manifestFile).path).components := by
    rw [join_noFunctions]
    decide
  have wrote := inWorld_writeArtifact_of_holds (noFunctions manifestFile)
    (planned manifestFile) rfl (join_noFunctions manifestFile)
    (holding_functions functions manifest) differs
  have abreast := Abreast.refl (holding functions manifest).disk (planned manifestFile) rfl
  obtain ⟨more, last, kept, inside, -, dry, abreast⟩ :=
    foretold_writeArtifact _ (noFunctions manifestFile) plain abreast nofun wrote
  have vacant : kept.contains path = false := by
    refine Memory.contains_eq_false_iff.mpr fun file member => ?_
    have written : file.1 ∈ [] ++ more := abreast.pending ▸ List.mem_map_of_mem member
    rw [List.mem_singleton.mp (inside _ written), join_noFunctions, other]
  have listed : last.output.trackedPaths = ["libcef.g.cs"] := by
    rw [abreast.output]
    exact trackedPaths_functions
  have reaches : (flat manifestFile).manifestPath last.output.root = path := by
    rw [abreast.output, abreast.root, reaches]
  rw [← listed] at holds
  have found := within_writeManifest_of_holds (flat manifestFile) reaches
    (by simpa [Memory.contains] using vacant) holds
  have taken : (Session.inTurn ((flat manifestFile).steps Machine.fileSystem.dryRunStore
      [noFunctions manifestFile])).within (planned manifestFile) .empty
        (holding functions manifest) =
          (((.ok 1, (last.add (.reached manifestFile)).found manifestFile), kept),
            holding functions manifest) := by
    rw [steps_eq, List.map_singleton, List.singleton_append, Session.inTurn,
      Session.within_bind_of_ok dry, Session.inTurn, bind_assoc, Session.within_bind_of_ok found]
    rfl
  exact ⟨_, kept, within_run_of_plan (outcome_plan_flat manifestFile) taken⟩

/-- Paths that differ can lead to one file. A dry run then reads what the run itself has replaced, and
foretells less than the run writes. -/
theorem dry_run_misses_replaced_file :
    let g := flat "./libcef.g.cs"
    let journal : Journal := ⟨.fresh ⟨""⟩ false, []⟩
    let machine := holding (Manifest.text ["libcef.g.cs"]) ""
    g.settings.fault? = none ∧
      (∀ path ∈ g.places .empty ⟨""⟩, Component.parent ∉ path.components) ∧
      (g.places .empty ⟨""⟩).Pairwise (fun a b => a.same b = false) ∧
      (∃ later after, (g.run .empty Machine.fileSystem.store).inWorld journal machine =
        ((.ok 2, later), after)) ∧
      ∃ foretold memory, (g.run .empty Machine.fileSystem.dryRunStore).within journal .empty
        machine = (((.ok 1, foretold), memory), machine) := by
  have manifest : (flat "./libcef.g.cs").manifestPath ⟨""⟩ = ⟨"./libcef.g.cs"⟩ := by decide
  have places := places_flat "./libcef.g.cs"
  rw [manifest] at places
  have differs : Manifest.text ["libcef.g.cs"] ≠ (noFunctions "./libcef.g.cs").content := by
    decide +kernel
  refine ⟨by decide, by rw [places]; decide, by rw [places]; decide, ?_, ?_⟩
  · exact inWorld_run_flat differs "" manifest
      (holding_functions_again (noFunctions "./libcef.g.cs").content "") differs.symm
  · exact within_run_flat differs manifest (by decide)
      (holding_functions_again (Manifest.text ["libcef.g.cs"]) "")

end Bindery.Generator
