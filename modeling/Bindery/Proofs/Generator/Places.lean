import Mathlib
import Bindery.Proofs.Generator.FinalState
import Bindery.Proofs.Store.Joins

/-! # Places of generated files

A run writes its files one after the other, so that a file at the place of an earlier one takes its
place. Main statement: as long as the names of classes can stand in a directory, a planned run
writes no file over another exactly when wrappers have different names, a directory for flat structs
and wrappers holds no two of one name, and the three files with names of their own are beside all
others (`plan_apart_iff`). Faultless settings do not see to that: they compare two of these three
names, and only their spelling (`not_apart_of_shared_name`).
-/

namespace Bindery.Generator

variable (g : Generator) (api : NativeApi) (root : Path)

/-- Where the file of a class's flat struct goes. -/
def structPath (cls : NativeClass) : Path :=
  root.join (g.settings.structDir.join ⟨sourceName cls.abiName⟩)

/-- Where the file of a class's wrapper goes. -/
def wrapperPath (cls : NativeClass) : Path :=
  root.join (g.settings.wrapperDir.join
    ⟨sourceName (g.classification.displayName cls.name)⟩)

/-- Where the file of the free functions goes. -/
def functionsPath : Path := root.join (g.settings.functionsDir.join ⟨g.settings.functionsFile⟩)

/-- Where the file of the version constants goes. -/
def versionPath : Path := root.join (g.settings.functionsDir.join ⟨g.settings.versionFile⟩)

/-- Where the manifest goes. -/
def manifestPath : Path := root.join (Path.join ⟨""⟩ ⟨g.settings.manifestFile⟩)

/-- Where a run writes, in the order of writing. -/
def places : List Path :=
  (g.completed api).sortedClasses.map (g.structPath root) ++ [g.functionsPath root] ++
    (g.completed api).sortedClasses.map (g.wrapperPath root) ++
    (if g.headers.isSome then [g.versionPath root] else []) ++ [g.manifestPath root]

/-- No file of a class goes to a path. -/
def LeavesFree (path : Path) : Prop :=
  ∀ cls ∈ (g.completed api).classes,
    (g.structPath root cls).same path = false ∧ (g.wrapperPath root cls).same path = false

instance (path : Path) : Decidable (g.LeavesFree api root path) :=
  inferInstanceAs (Decidable (∀ cls ∈ (g.completed api).classes, _ ∧ _))

/-- What keeps the files of a run apart. -/
@[mk_iff]
structure Apart : Prop where
  /-- No two wrappers have the same name. -/
  displayNames : ((g.completed api).classes.map fun cls =>
    g.classification.displayName cls.name).Nodup
  /-- In a common directory no wrapper is called like a flat struct. -/
  directories : (root.join g.settings.structDir).same (root.join g.settings.wrapperDir) = true →
    ∀ cls ∈ (g.completed api).classes, ∀ other ∈ (g.completed api).classes,
      cls.abiName ≠ g.classification.displayName other.name
  functions : g.LeavesFree api root (g.functionsPath root)
  version : g.headers.isSome = true →
    (g.functionsPath root).same (g.versionPath root) = false ∧
      g.LeavesFree api root (g.versionPath root)
  manifest : (g.functionsPath root).same (g.manifestPath root) = false ∧
    (g.headers.isSome = true → (g.versionPath root).same (g.manifestPath root) = false) ∧
    g.LeavesFree api root (g.manifestPath root)

instance : Decidable (g.Apart api root) := decidable_of_iff' _ (apart_iff g api root)

variable {g api root} {artifacts : List Artifact}

/-- Version constants are planned where headers are given. -/
theorem isSome_of_constants {constants : Option Header.VersionConstants}
    (read : g.constants = .ok constants) : constants.isSome = g.headers.isSome := by
  unfold Generator.constants at read
  split at read
  · next none =>
    obtain rfl := Except.ok.inj read
    rw [none]
    rfl
  · next headers given =>
    rw [given]
    cases found : Header.versionConstants headers with
    | error failure =>
      rw [found] at read
      cases read
    | ok constants =>
      rw [found] at read
      cases read
      rfl

theorem paths_items (found : (g.plan api).outcome = .ok artifacts) :
    (g.items root artifacts).map (·.path) = g.places api root := by
  obtain ⟨_, layouts, constants, laid, read, rfl⟩ := outcome_plan_eq_ok_iff.mp found
  have classes := (outcome_layouts_eq_ok_iff.mp laid).1
  have version : ((constants.map (versionArtifact (g.context (g.completed api)))).toList.map
      fun artifact => root.join artifact.path) =
        if g.headers.isSome then [g.versionPath root] else [] := by
    rw [← isSome_of_constants read]
    cases constants <;> rfl
  rw [items, places, ← classes, ← version]
  simp only [Generator.artifacts, List.map_append, List.map_map, List.map_cons, List.map_nil]
  rfl

theorem sourceName_inj {first second : String} :
    sourceName first = sourceName second ↔ first = second := by
  simp [sourceName, toString]

theorem isFileName_sourceName {stem : String} (free : '/' ∉ stem.toList) :
    Path.IsFileName (sourceName stem) where
  free := by simp [sourceName, toString, free]
  filled := by simp [sourceName, toString]
  notCurrent same := by
    have last := congrArg (fun text => text.toList.getLast?) same
    simp [sourceName, toString] at last
  notParent same := by
    have last := congrArg (fun text => text.toList.getLast?) same
    simp [sourceName, toString] at last

/-- Generated sources are at the same place when their directories and their names are the same. -/
theorem same_join_sourceName {stem other : String} (free : '/' ∉ stem.toList)
    (freeToo : '/' ∉ other.toList) (dir second : Path) :
    (root.join (dir.join ⟨sourceName stem⟩)).same (root.join (second.join ⟨sourceName other⟩)) =
        true ↔
      (root.join dir).same (root.join second) = true ∧ stem = other := by
  rw [Path.join_assoc, Path.join_assoc,
    Path.same_join_name (isFileName_sourceName free) (isFileName_sourceName freeToo),
    sourceName_inj]

/-- Names of classes that can stand in a directory. -/
def NamesFiles (g : Generator) (cls : NativeClass) : Prop :=
  '/' ∉ cls.abiName.toList ∧ '/' ∉ (g.classification.displayName cls.name).toList

instance (cls : NativeClass) : Decidable (g.NamesFiles cls) := inferInstanceAs (Decidable (_ ∧ _))

section Classes

variable (root) (named : ∀ cls ∈ (g.completed api).classes, g.NamesFiles cls)
include named

theorem pairwise_structPath (abiNames : ((g.completed api).classes.map (·.abiName)).Nodup) :
    ((g.completed api).sortedClasses.map (g.structPath root)).Pairwise
      fun a b => a.same b = false := by
  have sorted : ((g.completed api).sortedClasses.map (·.abiName)).Nodup :=
    ((List.mergeSort_perm _ _).map _).nodup_iff.mpr abiNames
  rw [List.pairwise_map]
  refine (List.pairwise_map.mp sorted).imp_of_mem fun {a b} here there differ => ?_
  have plain := (named a (NativeApi.mem_sortedClasses.mp here)).1
  have plainToo := (named b (NativeApi.mem_sortedClasses.mp there)).1
  rw [Bool.eq_false_iff, ne_eq, structPath, structPath, same_join_sourceName plain plainToo]
  exact fun same => differ same.2

theorem pairwise_wrapperPath_iff :
    ((g.completed api).sortedClasses.map (g.wrapperPath root)).Pairwise
        (fun a b => a.same b = false) ↔
      ((g.completed api).classes.map fun cls => g.classification.displayName cls.name).Nodup := by
  have sorted : ((g.completed api).sortedClasses.map fun cls =>
      g.classification.displayName cls.name).Nodup ↔
        ((g.completed api).classes.map fun cls => g.classification.displayName cls.name).Nodup :=
    ((List.mergeSort_perm _ _).map _).nodup_iff
  rw [← sorted, List.Nodup, List.pairwise_map, List.pairwise_map]
  refine List.Pairwise.iff_of_mem fun {a b} here there => ?_
  have plain := (named a (NativeApi.mem_sortedClasses.mp here)).2
  have plainToo := (named b (NativeApi.mem_sortedClasses.mp there)).2
  rw [Bool.eq_false_iff, ne_eq, wrapperPath, wrapperPath, same_join_sourceName plain plainToo]
  simp

theorem structPath_apart_wrapperPath_iff :
    (∀ cls ∈ (g.completed api).classes, ∀ other ∈ (g.completed api).classes,
        (g.structPath root cls).same (g.wrapperPath root other) = false) ↔
      ((root.join g.settings.structDir).same (root.join g.settings.wrapperDir) = true →
        ∀ cls ∈ (g.completed api).classes, ∀ other ∈ (g.completed api).classes,
          cls.abiName ≠ g.classification.displayName other.name) := by
  have each : ∀ cls ∈ (g.completed api).classes, ∀ other ∈ (g.completed api).classes,
      ((g.structPath root cls).same (g.wrapperPath root other) = false ↔
        ((root.join g.settings.structDir).same (root.join g.settings.wrapperDir) = true →
          cls.abiName ≠ g.classification.displayName other.name)) := by
    intro cls here other there
    rw [Bool.eq_false_iff, ne_eq, structPath, wrapperPath,
      same_join_sourceName (named cls here).1 (named other there).2, not_and]
  constructor
  · intro apart common cls here other there
    exact (each cls here other there).mp (apart cls here other there) common
  · intro apart cls here other there
    exact (each cls here other there).mpr fun common => apart common cls here other there

theorem pairwise_places_iff (abiNames : ((g.completed api).classes.map (·.abiName)).Nodup) :
    (g.places api root).Pairwise (fun a b => a.same b = false) ↔ g.Apart api root := by
  have structs := pairwise_structPath root named abiNames
  have wrappers := pairwise_wrapperPath_iff root named
  have both := structPath_apart_wrapperPath_iff root named
  have single : (if g.headers.isSome then [g.versionPath root] else []).Pairwise
      fun a b => a.same b = false := by
    split <;> simp
  have member (path : Path) : (path ∈ if g.headers.isSome then [g.versionPath root] else []) ↔
      g.headers.isSome = true ∧ path = g.versionPath root := by
    split <;> simp [*]
  simp only [places, List.pairwise_append, List.forall_mem_append, List.forall_mem_map,
    NativeApi.mem_sortedClasses, structs, wrappers, both, single, member, List.mem_singleton,
    forall_eq, true_and, List.pairwise_singleton]
  constructor
  · rintro ⟨⟨⟨structsFunctions, displayNames, directories, functionsWrappers⟩,
      ⟨structsVersion, functionsVersion⟩, wrappersVersion⟩,
      ⟨⟨structsManifest, functionsManifest⟩, wrappersManifest⟩, versionManifest⟩
    refine ⟨displayNames, directories, fun cls here => ⟨structsFunctions cls here, ?_⟩,
      fun given => ⟨functionsVersion _ ⟨given, rfl⟩, fun cls here => ⟨?_, ?_⟩⟩,
      functionsManifest, fun given => versionManifest _ ⟨given, rfl⟩,
      fun cls here => ⟨structsManifest cls here, wrappersManifest cls here⟩⟩
    · rw [Path.same_comm]
      exact functionsWrappers cls here
    · exact structsVersion cls here _ ⟨given, rfl⟩
    · exact wrappersVersion cls here _ ⟨given, rfl⟩
  · rintro ⟨displayNames, directories, functions, version, functionsManifest, versionManifest,
      manifest⟩
    refine ⟨⟨⟨fun cls here => (functions cls here).1, displayNames, directories,
        fun cls here => ?_⟩, ⟨?_, ?_⟩, ?_⟩,
      ⟨⟨fun cls here => (manifest cls here).1, functionsManifest⟩,
        fun cls here => (manifest cls here).2⟩, ?_⟩
    · rw [Path.same_comm]
      exact (functions cls here).2
    · rintro cls here _ ⟨given, rfl⟩
      exact ((version given).2 cls here).1
    · rintro _ ⟨given, rfl⟩
      exact (version given).1
    · rintro cls here _ ⟨given, rfl⟩
      exact ((version given).2 cls here).2
    · rintro _ ⟨given, rfl⟩
      exact versionManifest given

end Classes

/-- Faultless settings give the free functions and the version constants different names. -/
theorem functionsFile_ne_versionFile (valid : g.settings.fault? = none) :
    g.settings.functionsFile ≠ g.settings.versionFile := by
  intro same
  unfold Settings.fault? at valid
  split at valid
  · contradiction
  · rw [if_pos same] at valid
    contradiction

/-- A planned run writes no file over another exactly when the names and directories of its files
keep them apart. To this, faultless settings add that the free functions and the version constants
have different places, as long as both settings are names of files. -/
theorem plan_apart_iff (valid : g.settings.fault? = none)
    (found : (g.plan api).outcome = .ok artifacts)
    (abiNames : ((g.completed api).classes.map (·.abiName)).Nodup)
    (named : ∀ cls ∈ (g.completed api).classes, g.NamesFiles cls) (root : Path) :
    ((g.items root artifacts).Pairwise (fun a b => a.path.same b.path = false) ↔
        g.Apart api root) ∧
      (Path.IsFileName g.settings.functionsFile → Path.IsFileName g.settings.versionFile →
        (g.functionsPath root).same (g.versionPath root) = false) := by
  constructor
  · rw [← pairwise_places_iff root named abiNames, ← paths_items found, List.pairwise_map]
  · intro name nameToo
    have differ := functionsFile_ne_versionFile valid
    rw [Bool.eq_false_iff, ne_eq, functionsPath, versionPath, Path.join_assoc, Path.join_assoc,
      Path.same_join_name name nameToo]
    exact fun same => differ same.2

/-- A generator that makes handlers of two classes and adds none. -/
def ofNodes : Generator :=
  .plain { Settings.default with syntheticClasses := [] }
    ⟨.ofList (["Node", "Leaf"].map fun name => (name, .ofRole .handler))⟩ Dictionary.empty

/-- An interface of these two classes. -/
def nodes : NativeApi :=
  ⟨[.bare "Node" "node_t" "Base" "cef_base_scoped_t", .bare "Leaf" "leaf_t" "Node" "node_t"], []⟩

theorem plan_apart_iff_nodes : ∃ artifacts, ofNodes.settings.fault? = none ∧
    (ofNodes.plan nodes).outcome = .ok artifacts ∧
    ((ofNodes.completed nodes).classes.map (·.abiName)).Nodup ∧
    (∀ cls ∈ (ofNodes.completed nodes).classes, ofNodes.NamesFiles cls) ∧
    ofNodes.Apart nodes ⟨"gen"⟩ ∧
    (ofNodes.items ⟨"gen"⟩ artifacts).Pairwise fun a b => a.path.same b.path = false := by
  have valid : ofNodes.settings.fault? = none := by decide
  have checked : (ofNodes.check nodes).outcome = .ok ⟨2, 0, 2, 2, 0, []⟩ := by cbv
  have abiNames : ((ofNodes.completed nodes).classes.map (·.abiName)).Nodup := by decide
  have named : ∀ cls ∈ (ofNodes.completed nodes).classes, ofNodes.NamesFiles cls := by
    decide
  have apart : ofNodes.Apart nodes ⟨"gen"⟩ := by
    decide +kernel
  obtain ⟨artifacts, found⟩ := exists_plan_iff.mpr ⟨⟨_, checked⟩, none, rfl⟩
  exact ⟨artifacts, valid, found, abiNames, named, apart,
    (plan_apart_iff valid found abiNames named ⟨"gen"⟩).1.mpr apart⟩

/-- A generator that is to write the free functions beside the manifest, and under its name. -/
def crowded : Generator :=
  .plain
    { Settings.default with
      functionsDir := ⟨""⟩, manifestFile := "libcef.g.cs", syntheticClasses := [] }
    Classification.empty Dictionary.empty

/-- Its settings have no fault, and its runs write the manifest over the free functions. -/
theorem not_apart_of_shared_name : ∃ artifacts, crowded.settings.fault? = none ∧
    (crowded.plan .empty).outcome = .ok artifacts ∧
    ((crowded.completed .empty).classes.map (·.name)).Nodup ∧
    ((crowded.completed .empty).classes.map (·.abiName)).Nodup ∧
    ¬(crowded.items ⟨"gen"⟩ artifacts).Pairwise fun a b => a.path.same b.path = false := by
  have checked : (crowded.check .empty).outcome = .ok ⟨0, 0, 0, 0, 0, []⟩ := by cbv
  obtain ⟨artifacts, found⟩ := exists_plan_iff.mpr ⟨⟨_, checked⟩, none, rfl⟩
  refine ⟨artifacts, by decide, found, by decide, by decide, fun apart => ?_⟩
  have places : (crowded.places .empty ⟨"gen"⟩).Pairwise fun a b => a.same b = false := by
    rw [← paths_items found, List.pairwise_map]
    exact apart
  exact absurd places (by decide +kernel)

end Bindery.Generator
