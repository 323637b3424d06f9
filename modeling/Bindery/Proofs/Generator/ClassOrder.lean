import Mathlib
import Bindery.Proofs.Generator.Completion

/-! # Interfaces in another order

Classes can be listed in any order: what is looked up by name is found wherever it stands, and what
is generated one class after the other follows the names. Main statement: interfaces with the same
free functions and the same classes in two orders have the same plan, or cannot be planned for the
same reason (`plan_congr_perm`).
-/

namespace Bindery

namespace Generator

variable {g : Generator} {first second : NativeApi}

/-- Interfaces with the same classes are completed by the same classes. -/
theorem additions_congr_perm (perm : first.classes.Perm second.classes) :
    additions (first.classes.map (·.name)) g.settings.syntheticClasses =
      additions (second.classes.map (·.name)) g.settings.syntheticClasses :=
  additions_congr fun _ _ => (perm.map (·.name)).mem_iff

theorem completed_perm (g : Generator) (perm : first.classes.Perm second.classes) :
    (g.completed first).classes.Perm (g.completed second).classes := by
  rw [completed_eq, completed_eq, additions_congr_perm perm]
  exact perm.append_right _

/-- Completed interfaces with the same classes agree on parents. The synthetic classes need not
differ from others in their struct names, but they come last in both. -/
theorem keepsParents_of_perm (g : Generator) (perm : first.classes.Perm second.classes)
    (names : (first.classes.map (·.name)).Nodup)
    (abiNames : (first.classes.map (·.abiName)).Nodup) :
    (g.completed first).KeepsParents (g.completed second) := by
  intro cls _ _
  simp only [NativeApi.parent?, NativeApi.classNamed?, NativeApi.classWithAbiName?, completed_eq,
    List.find?_append]
  rw [additions_congr_perm perm, find?_key_congr perm names, find?_key_congr perm abiNames]

/-- The order in which an interface lists its classes does not bear on its plan, nor on why it
cannot be planned. -/
theorem plan_congr_perm (functions : first.functions = second.functions)
    (perm : first.classes.Perm second.classes) (names : (first.classes.map (·.name)).Nodup)
    (abiNames : (first.classes.map (·.abiName)).Nodup) :
    (g.plan first).outcome = (g.plan second).outcome := by
  have sorted : (g.completed first).sortedClasses = (g.completed second).sortedClasses :=
    NativeApi.sortedClasses_congr (completed_perm g perm) (nodup_names_completed names)
  have keeps := keepsParents_of_perm g perm names abiNames
  have roles : (g.checkRoles (g.completed first)).outcome =
      (g.checkRoles (g.completed second)).outcome := by
    rw [checkRoles, checkRoles, sorted]
  have layouts : (g.layouts (g.completed first)).outcome =
      (g.layouts (g.completed second)).outcome := by
    rw [outcome_layouts, outcome_layouts, ← sorted]
    refine mapM_congr fun cls member => ?_
    rw [layout_congr g keeps (NativeApi.mem_sortedClasses.mp member)]
  have same : (g.completed first).functions = (g.completed second).functions := by
    rw [completed_eq, completed_eq, functions]
  have alike := g.alike_context (g.completed first) (g.completed second)
  simp only [outcome_plan, roles, layouts, same, (alike _).artifacts_eq]

/-- A class and another one that derives from it. -/
def parentAndChild : NativeApi :=
  ⟨[.bare "Node" "node_t" "Base" "cef_base_scoped_t", .bare "Leaf" "leaf_t" "Node" "node_t"], []⟩

/-- A generator that adds a class with the struct name of another one, and has roles for all
three. -/
def withNamesake : Generator :=
  .plain
    { Settings.default with
      syntheticClasses := [⟨"Twin", "node_t", "Base", "cef_base_scoped_t"⟩] }
    ⟨.ofList [("Node", .ofRole .handler), ("Leaf", .ofRole .handler), ("Twin", .ofRole .proxy)]⟩
    Dictionary.empty

theorem plan_congr_perm_parentAndChild : ∃ planned,
    parentAndChild.classes.Perm parentAndChild.classes.reverse ∧
      (parentAndChild.classes.map (·.name)).Nodup ∧
      (parentAndChild.classes.map (·.abiName)).Nodup ∧
      (withNamesake.plan parentAndChild).outcome = .ok planned ∧
      (withNamesake.plan ⟨parentAndChild.classes.reverse, []⟩).outcome = .ok planned := by
  have perm : parentAndChild.classes.Perm parentAndChild.classes.reverse :=
    (List.reverse_perm _).symm
  have names : (parentAndChild.classes.map (·.name)).Nodup := by decide
  have abiNames : (parentAndChild.classes.map (·.abiName)).Nodup := by decide
  have checked : (withNamesake.check parentAndChild).outcome = .ok ⟨3, 1, 2, 3, 0, []⟩ := by cbv
  obtain ⟨planned, found⟩ := exists_plan_iff.mpr ⟨⟨_, checked⟩, none, rfl⟩
  have same : (withNamesake.plan parentAndChild).outcome =
      (withNamesake.plan ⟨parentAndChild.classes.reverse, []⟩).outcome :=
    plan_congr_perm rfl perm names abiNames
  exact ⟨planned, perm, names, abiNames, found, same ▸ found⟩

end Generator

end Bindery
