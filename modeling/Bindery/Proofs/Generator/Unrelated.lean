import Bindery.Proofs.Generator.Completion
import Bindery.Proofs.Generator.Roles

/-! # Interfaces with a class more

A class that is added to an interface is registered as a struct, takes part in the search for
parents and stands among the sorted classes. No class that has nothing to do with it is generated
otherwise for that, not even one whose functions take pointers to its struct. Main statement: the
plan of the larger interface is that of the smaller one, with the two files of the added class put
in (`plan_insert`).
-/

namespace Bindery

namespace Generator

variable {g : Generator} {api : NativeApi} {before after : List NativeClass} {added : NativeClass}
  {functions : List NativeFunction} {planned enlarged : List Artifact}

/-- No class of a completed interface has the names of an added class, or calls its parent by its
logical name. -/
structure Unrelated (g : Generator) (api : NativeApi) (added : NativeClass) : Prop where
  name : ∀ cls ∈ (g.completed api).classes, cls.name ≠ added.name
  abiName : ∀ cls ∈ (g.completed api).classes, cls.abiName ≠ added.abiName
  parentName : ∀ cls ∈ (g.completed api).classes, cls.parentName ≠ added.name

/-- An unrelated class takes the name of no synthetic class, so that the same ones are added. -/
theorem Unrelated.completed_insert
    (unrelated : g.Unrelated ⟨before ++ after, functions⟩ added) : ∃ synthetic,
      g.completed ⟨before ++ after, functions⟩ = ⟨before ++ (after ++ synthetic), functions⟩ ∧
        g.completed ⟨before ++ added :: after, functions⟩ =
          ⟨before ++ added :: (after ++ synthetic), functions⟩ := by
  have same : additions ((before ++ added :: after).map (·.name)) g.settings.syntheticClasses =
      additions ((before ++ after).map (·.name)) g.settings.syntheticClasses := by
    refine additions_congr fun cls member => ?_
    obtain ⟨complete, inside, named⟩ := exists_completed_of_synthetic ⟨_, functions⟩ member
    have other : cls.name ≠ added.name := named ▸ unrelated.name complete inside
    simp [other]
  refine ⟨additions ((before ++ after).map (·.name)) g.settings.syntheticClasses, ?_, ?_⟩
  · rw [completed_eq, List.append_assoc]
  · rw [completed_eq, same, List.append_assoc, List.cons_append]

/-- In a planned interface every class that does not derive from a root has a parent. -/
theorem exists_parent_of_plan (found : (g.plan api).outcome = .ok planned) {cls : NativeClass}
    (member : cls ∈ (g.completed api).classes)
    (notRoot : RootStruct.ofAbiName? cls.parentAbiName = none) :
    ∃ parent, (g.completed api).parent? cls = some parent := by
  obtain ⟨layout, laid, _⟩ := exists_wrapper_of_plan found member
  cases walked : (g.completed api).ancestry cls with
  | error failure =>
    rw [NativeApi.layout, walked] at laid
    contradiction
  | ok ancestry => exact NativeApi.exists_parent_of_ancestry walked notRoot

/-- No chain of a planned interface resolves otherwise for an unrelated class. -/
theorem Unrelated.keepsParents (unrelated : g.Unrelated ⟨before ++ after, functions⟩ added)
    (found : (g.plan ⟨before ++ after, functions⟩).outcome = .ok planned) :
    (g.completed ⟨before ++ after, functions⟩).KeepsParents
      (g.completed ⟨before ++ added :: after, functions⟩) := by
  have parents : ∀ cls ∈ (g.completed ⟨before ++ after, functions⟩).classes,
      RootStruct.ofAbiName? cls.parentAbiName = none →
        ∃ parent, (g.completed ⟨before ++ after, functions⟩).parent? cls = some parent :=
    fun cls => exists_parent_of_plan found
  have abiName := unrelated.abiName
  have parentName := unrelated.parentName
  obtain ⟨synthetic, smaller, larger⟩ := unrelated.completed_insert
  rw [smaller] at parents abiName parentName ⊢
  rw [larger]
  exact NativeApi.keepsParents_insert functions parents abiName parentName

/-- A class more puts two artifacts more among those of the others. -/
theorem artifacts_insert (ctx : Context) (functions : List NativeFunction)
    (first second : List (NativeClass × Layout)) (layout : Layout)
    (constants : Option Header.VersionConstants) : ∃ head middle tail,
      artifacts ctx functions (first ++ (added, layout) :: second) constants =
          head ++ structArtifact ctx added layout :: middle ++
            wrapperArtifact ctx added layout :: tail ∧
        artifacts ctx functions (first ++ second) constants = head ++ middle ++ tail := by
  refine ⟨first.map fun entry => structArtifact ctx entry.1 entry.2,
    (second.map fun entry => structArtifact ctx entry.1 entry.2) ++
      functionsArtifact ctx functions ::
        first.map fun entry => wrapperArtifact ctx entry.1 entry.2,
    (second.map fun entry => wrapperArtifact ctx entry.1 entry.2) ++
      (constants.map (versionArtifact ctx)).toList, ?_, ?_⟩
  · simp [artifacts]
  · simp [artifacts]

/-- The layouts of an interface with an unrelated class more are those of the others, with that of
the added class between them. -/
theorem Unrelated.layouts_insert (unrelated : g.Unrelated ⟨before ++ after, functions⟩ added)
    (found : (g.plan ⟨before ++ after, functions⟩).outcome = .ok planned)
    {layout : Layout} {layouts : List (NativeClass × Layout)}
    (laid : (g.completed ⟨before ++ added :: after, functions⟩).layout
      (g.context (g.completed ⟨before ++ added :: after, functions⟩)).naming added = .ok layout)
    (others : (g.layouts (g.completed ⟨before ++ after, functions⟩)).outcome = .ok layouts) :
    ∃ first second, layouts = first ++ second ∧
      (g.layouts (g.completed ⟨before ++ added :: after, functions⟩)).outcome =
        .ok (first ++ (added, layout) :: second) := by
  have keeps := unrelated.keepsParents found
  obtain ⟨same, each⟩ := outcome_layouts_eq_ok_iff.mp others
  have unmoved : ∀ entry ∈ layouts,
      (g.completed ⟨before ++ added :: after, functions⟩).layout
        (g.context (g.completed ⟨before ++ added :: after, functions⟩)).naming entry.1 =
          .ok entry.2 := by
    intro entry member
    have inside : entry.1 ∈ (g.completed ⟨before ++ after, functions⟩).sortedClasses :=
      same ▸ List.mem_map_of_mem member
    rw [layout_congr g keeps (NativeApi.mem_sortedClasses.mp inside), each entry member]
  obtain ⟨synthetic, smaller, larger⟩ := unrelated.completed_insert
  obtain ⟨less, more, sorted, without⟩ :=
    NativeApi.exists_sortedClasses_insert before (after ++ synthetic) added functions
  rw [smaller, without, List.map_eq_append_iff] at same
  obtain ⟨first, second, rfl, rfl, rfl⟩ := same
  refine ⟨first, second, rfl, outcome_layouts_eq_ok_iff.mpr ⟨?_, ?_⟩⟩
  · rw [larger, sorted, List.map_append, List.map_cons]
  · intro entry member
    rw [List.mem_append, List.mem_cons] at member
    rcases member with member | rfl | member
    · exact unmoved entry (List.mem_append_left _ member)
    · exact laid
    · exact unmoved entry (List.mem_append_right _ member)

/-- A class that has nothing to do with the others adds its own two artifacts to a plan and leaves
all others as they are, in their order. -/
theorem plan_insert (unrelated : g.Unrelated ⟨before ++ after, functions⟩ added)
    (found : (g.plan ⟨before ++ after, functions⟩).outcome = .ok planned)
    (more : (g.plan ⟨before ++ added :: after, functions⟩).outcome = .ok enlarged) :
    ∃ layout head middle tail,
      (g.completed ⟨before ++ added :: after, functions⟩).layout
          (g.context (g.completed ⟨before ++ added :: after, functions⟩)).naming added =
        .ok layout ∧
      enlarged =
        head ++ structArtifact (g.context (g.completed ⟨before ++ added :: after, functions⟩))
            added layout :: middle ++
          wrapperArtifact (g.context (g.completed ⟨before ++ added :: after, functions⟩))
            added layout :: tail ∧
      planned = head ++ middle ++ tail := by
  have inside : added ∈ (g.completed ⟨before ++ added :: after, functions⟩).classes := by
    simp [completed_eq]
  obtain ⟨layout, laid, _⟩ := exists_wrapper_of_plan more inside
  obtain ⟨_, layouts, constants, others, read, rfl⟩ := outcome_plan_eq_ok_iff.mp found
  obtain ⟨_, all, constantsToo, allFound, readToo, rfl⟩ := outcome_plan_eq_ok_iff.mp more
  obtain ⟨first, second, rfl, allLaid⟩ := unrelated.layouts_insert found laid others
  obtain rfl := Except.ok.inj (allLaid.symm.trans allFound)
  obtain rfl := Except.ok.inj (read.symm.trans readToo)
  obtain ⟨head, middle, tail, enlargedBy, smaller⟩ := artifacts_insert
    (g.context (g.completed ⟨before ++ added :: after, functions⟩)) functions first second layout
    constants
  have alike := g.alike_context (g.completed ⟨before ++ after, functions⟩)
    (g.completed ⟨before ++ added :: after, functions⟩)
  refine ⟨layout, head, middle, tail, laid, ?_, ?_⟩
  · rw [← enlargedBy, functions_completed]
  · rw [← smaller, (alike _).artifacts_eq, functions_completed]

/-- A class that the two classes below know nothing of. -/
def visitor : NativeClass := .bare "Visitor" "visitor_t" "Base" "cef_base_scoped_t"

/-- A free function that takes an object of that class. -/
def acceptVisitor : NativeFunction :=
  ⟨"Accept", "cef_accept", "void", [⟨"visitor_t*", "visitor"⟩], false, []⟩

/-- A generator that makes handlers of three classes and adds none. -/
def ofVisited : Generator :=
  .plain { Settings.default with syntheticClasses := [] }
    ⟨.ofList (["Node", "Leaf", "Visitor"].map fun name => (name, .ofRole .handler))⟩
    Dictionary.empty

/-- The class is put between another one and its parent, and is named by a free function. -/
theorem plan_insert_visitor :
    let first := NativeClass.bare "Node" "node_t" "Base" "cef_base_scoped_t"
    let second := NativeClass.bare "Leaf" "leaf_t" "Node" "node_t"
    ∃ planned enlarged, ofVisited.Unrelated ⟨[first] ++ [second], [acceptVisitor]⟩ visitor ∧
      (ofVisited.plan ⟨[first] ++ [second], [acceptVisitor]⟩).outcome = .ok planned ∧
      (ofVisited.plan ⟨[first] ++ visitor :: [second], [acceptVisitor]⟩).outcome = .ok enlarged ∧
      ∃ layout head middle tail,
        enlarged =
          head ++ structArtifact (ofVisited.context
              (ofVisited.completed ⟨[first] ++ visitor :: [second], [acceptVisitor]⟩))
              visitor layout :: middle ++
            wrapperArtifact (ofVisited.context
              (ofVisited.completed ⟨[first] ++ visitor :: [second], [acceptVisitor]⟩))
              visitor layout :: tail ∧
        planned = head ++ middle ++ tail := by
  intro first second
  have unrelated : ofVisited.Unrelated ⟨[first] ++ [second], [acceptVisitor]⟩ visitor :=
    ⟨by decide, by decide, by decide⟩
  have checked : (ofVisited.check ⟨[first] ++ [second], [acceptVisitor]⟩).outcome =
      .ok ⟨2, 0, 2, 2, 1, ["visitor_t*"]⟩ := by cbv
  have checkedToo : (ofVisited.check ⟨[first] ++ visitor :: [second], [acceptVisitor]⟩).outcome =
      .ok ⟨3, 0, 3, 3, 1, []⟩ := by cbv
  obtain ⟨planned, found⟩ := exists_plan_iff.mpr ⟨⟨_, checked⟩, none, rfl⟩
  obtain ⟨enlarged, more⟩ := exists_plan_iff.mpr ⟨⟨_, checkedToo⟩, none, rfl⟩
  obtain ⟨layout, head, middle, tail, _, parts⟩ := plan_insert unrelated found more
  exact ⟨planned, enlarged, unrelated, found, more, layout, head, middle, tail, parts⟩

end Generator

end Bindery
