import Bindery.Generator.Plan
import Bindery.Generator.Report

/-! # How checking and planning end

The records that a computation writes do not bear on how it ends. Main statements: planning succeeds
exactly when every class of the completed interface has a permitted role and a layout and the
version constants can be read (`exists_plan_iff_classes`), and that is when an interface passes the
check and the version constants can be read (`exists_plan_iff`).
-/

namespace Bindery

namespace Logged

variable {α β : Type}

@[simp] theorem outcome_ofExcept (outcome : Except Failure α) :
    (ofExcept outcome).outcome = outcome := rfl

theorem outcome_write_bind (records : List Record) (next : Unit → Logged α) :
    (write records >>= next).outcome = (next ()).outcome := rfl

theorem outcome_note_bind (level : Level) (text : String) (next : Unit → Logged α) :
    (note level text >>= next).outcome = (next ()).outcome := rfl

@[simp] theorem outcome_fail (failure : Failure) :
    (fail failure : Logged α).outcome = .error failure := rfl

theorem outcome_bind_eq_ok_iff {first : Logged α} {next : α → Logged β} {value : β} :
    (first >>= next).outcome = .ok value ↔
      ∃ middle, first.outcome = .ok middle ∧ (next middle).outcome = .ok value := by
  rw [outcome_bind]
  cases first.outcome with
  | error failure => simp [bind, Except.bind]
  | ok middle => simp [bind, Except.bind]

/-- Computations one after the other end as their endings one after the other. -/
theorem outcome_mapM (f : α → Logged β) (items : List α) :
    (items.mapM f).outcome = items.mapM fun item => (f item).outcome := by
  induction items with
  | nil => rfl
  | cons item rest ih => simp only [List.mapM_cons, outcome_bind, ih, outcome_pure]; rfl

/-- A computation for each item pairs the items with their results. -/
theorem outcome_mapM_pair_eq_ok_iff (f : α → Logged β) (items : List α)
    (results : List (α × β)) :
    (items.mapM fun item => do return (item, ← f item)).outcome = .ok results ↔
      results.map Prod.fst = items ∧ ∀ entry ∈ results, (f entry.1).outcome = .ok entry.2 := by
  induction items generalizing results with
  | nil =>
    rw [List.mapM_nil, outcome_pure, Except.ok.injEq, List.map_eq_nil_iff]
    constructor
    · rintro rfl
      exact ⟨rfl, by simp⟩
    · rintro ⟨rfl, _⟩
      rfl
  | cons item rest ih =>
    simp only [List.mapM_cons, outcome_bind_eq_ok_iff, ih, outcome_pure, Except.ok.injEq]
    constructor
    · rintro ⟨entry, ⟨result, found, rfl⟩, others, ⟨same, each⟩, rfl⟩
      exact ⟨by rw [List.map_cons, same], List.forall_mem_cons.mpr ⟨found, each⟩⟩
    · rintro ⟨same, each⟩
      cases results with
      | nil => simp at same
      | cons entry others =>
        obtain ⟨rfl, rest⟩ := List.cons.inj same
        obtain ⟨found, each⟩ := List.forall_mem_cons.mp each
        exact ⟨entry, ⟨entry.2, found, rfl⟩, others, ⟨rest, each⟩, rfl⟩

/-- Computations one after the other succeed when each of them does. -/
theorem exists_outcome_mapM_pair_iff (f : α → Logged β) (items : List α) :
    (∃ results, (items.mapM fun item => do return (item, ← f item)).outcome = .ok results) ↔
      ∀ item ∈ items, ∃ result, (f item).outcome = .ok result := by
  simp only [outcome_mapM_pair_eq_ok_iff]
  constructor
  · rintro ⟨results, rfl, each⟩ item member
    obtain ⟨entry, inside, rfl⟩ := List.mem_map.mp member
    exact ⟨entry.2, each entry inside⟩
  · intro each
    refine ⟨items.attach.map fun item => (item.1, (each item.1 item.2).choose), ?_, ?_⟩
    · rw [List.map_map]
      exact List.attach_map_subtype_val items
    · intro entry inside
      obtain ⟨item, _, rfl⟩ := List.mem_map.mp inside
      exact (each item.1 item.2).choose_spec

end Logged

namespace NativeApi

theorem mem_sortedClasses {api : NativeApi} {cls : NativeClass} :
    cls ∈ api.sortedClasses ↔ cls ∈ api.classes :=
  (List.mergeSort_perm _ _).mem_iff

theorem length_sortedClasses (api : NativeApi) :
    api.sortedClasses.length = api.classes.length :=
  (List.mergeSort_perm _ _).length_eq

end NativeApi

namespace Generator

variable {g : Generator} {api : NativeApi}

theorem outcome_checkRoles_eq_ok_iff :
    (g.checkRoles api).outcome = .ok () ↔ ∀ cls ∈ api.classes, g.roleFault? cls = none := by
  simp only [checkRoles]
  cases found : api.sortedClasses.findSome? g.roleFault? with
  | none =>
    refine iff_of_true rfl fun cls member => ?_
    exact List.findSome?_eq_none_iff.mp found cls (NativeApi.mem_sortedClasses.mpr member)
  | some failure =>
    obtain ⟨cls, member, fault⟩ := List.exists_of_findSome?_eq_some found
    refine iff_of_false (fun ended => ?_) fun fine => ?_
    · rw [Logged.outcome_note_bind, Logged.outcome_fail] at ended
      contradiction
    · rw [fine cls (NativeApi.mem_sortedClasses.mp member)] at fault
      contradiction

theorem outcome_layout (cls : NativeClass) :
    (g.layout api cls).outcome = api.layout (g.context api).naming cls := by
  simp only [layout, NativeApi.layout, Logged.outcome_bind, Logged.outcome_ofExcept]
  cases api.ancestry cls <;> rfl

theorem outcome_layouts (g : Generator) (api : NativeApi) :
    (g.layouts api).outcome = api.sortedClasses.mapM fun cls =>
      (api.layout (g.context api).naming cls).map fun layout => (cls, layout) := by
  simp only [layouts, Logged.outcome_mapM, Logged.outcome_bind, outcome_layout]
  rfl

/-- The layouts are those of all classes, in the order of their names. -/
theorem outcome_layouts_eq_ok_iff {layouts : List (NativeClass × Layout)} :
    (g.layouts api).outcome = .ok layouts ↔
      layouts.map Prod.fst = api.sortedClasses ∧
        ∀ entry ∈ layouts, api.layout (g.context api).naming entry.1 = .ok entry.2 := by
  simp only [Generator.layouts, Logged.outcome_mapM_pair_eq_ok_iff, outcome_layout]

theorem exists_layouts_iff :
    (∃ layouts, (g.layouts api).outcome = .ok layouts) ↔
      ∀ cls ∈ api.classes, ∃ layout, api.layout (g.context api).naming cls = .ok layout := by
  simp only [layouts, Logged.exists_outcome_mapM_pair_iff, outcome_layout,
    NativeApi.mem_sortedClasses]

/-- Planning ends as the check of the roles, the layouts and the version constants do, in this
order. -/
theorem outcome_plan (g : Generator) (api : NativeApi) :
    (g.plan api).outcome = (do
      (g.checkRoles (g.completed api)).outcome
      let layouts ← (g.layouts (g.completed api)).outcome
      let constants ← g.constants
      return artifacts (g.context (g.completed api)) (g.completed api).functions layouts
        constants) := by
  simp only [plan, Logged.outcome_bind, Logged.outcome_ofExcept]
  rfl

theorem outcome_plan_eq_ok_iff {planned : List Artifact} :
    (g.plan api).outcome = .ok planned ↔
      (g.checkRoles (g.completed api)).outcome = .ok () ∧
        ∃ layouts constants, (g.layouts (g.completed api)).outcome = .ok layouts ∧
          g.constants = .ok constants ∧
          planned = artifacts (g.context (g.completed api)) (g.completed api).functions layouts
            constants := by
  simp only [plan, Logged.outcome_note_bind, Logged.outcome_write_bind,
    Logged.outcome_bind_eq_ok_iff, Logged.outcome_ofExcept, Logged.outcome_pure, Except.ok.injEq]
  constructor
  · rintro ⟨_, roles, layouts, found, constants, read, rfl⟩
    exact ⟨roles, layouts, constants, found, read, rfl⟩
  · rintro ⟨roles, layouts, constants, found, read, rfl⟩
    exact ⟨(), roles, layouts, found, constants, read, rfl⟩

/-- What holds of each kind of artifact holds of the artifacts of a plan. -/
theorem forall_mem_of_plan {planned : List Artifact} {holds : Artifact → Prop}
    (found : (g.plan api).outcome = .ok planned)
    (struct : ∀ cls layout, holds (structArtifact (g.context (g.completed api)) cls layout))
    (free : ∀ functions, holds (functionsArtifact (g.context (g.completed api)) functions))
    (wrapper : ∀ cls layout, holds (wrapperArtifact (g.context (g.completed api)) cls layout))
    (version : ∀ constants, holds (versionArtifact (g.context (g.completed api)) constants)) :
    ∀ artifact ∈ planned, holds artifact := by
  obtain ⟨_, layouts, constants, _, _, rfl⟩ := outcome_plan_eq_ok_iff.mp found
  intro artifact member
  simp only [artifacts, List.mem_append, List.mem_map, List.mem_singleton, Option.mem_toList,
    Option.map_eq_some_iff] at member
  obtain ((⟨entry, _, rfl⟩ | rfl) | ⟨entry, _, rfl⟩) | ⟨constants, _, rfl⟩ := member
  · exact struct entry.1 entry.2
  · exact free _
  · exact wrapper entry.1 entry.2
  · exact version constants

theorem outcome_check_eq_ok_iff {report : Report} :
    (g.check api).outcome = .ok report ↔
      (g.checkRoles (g.completed api)).outcome = .ok () ∧
        ∃ layouts, (g.layouts (g.completed api)).outcome = .ok layouts ∧ report = {
          classes := layouts.length
          proxies := (layouts.filter fun entry => g.classification.isProxy entry.1.name).length
          handlers := (layouts.filter fun entry => g.classification.isHandler entry.1.name).length
          slots := layouts.foldr (fun entry total => entry.2.size + total) 0
          functions := (g.completed api).functions.length
          unmapped := unmappedSpellings (g.typeMap (g.completed api)) (g.completed api) } := by
  simp only [check, Logged.outcome_bind_eq_ok_iff, Logged.outcome_pure, Except.ok.injEq]
  constructor
  · rintro ⟨_, roles, layouts, found, rfl⟩
    exact ⟨roles, layouts, found, rfl⟩
  · rintro ⟨roles, layouts, found, rfl⟩
    exact ⟨(), roles, layouts, found, rfl⟩

/-- What passes the check can be planned, unless it is for the version constants. -/
theorem exists_plan_iff :
    (∃ planned, (g.plan api).outcome = .ok planned) ↔
      (∃ report, (g.check api).outcome = .ok report) ∧
        ∃ constants, g.constants = .ok constants := by
  simp only [outcome_plan_eq_ok_iff, outcome_check_eq_ok_iff]
  constructor
  · rintro ⟨_, roles, layouts, constants, found, read, _⟩
    exact ⟨⟨_, roles, layouts, found, rfl⟩, constants, read⟩
  · rintro ⟨⟨_, roles, layouts, found, _⟩, constants, read⟩
    exact ⟨_, roles, layouts, constants, found, read, rfl⟩

/-- What can be planned has a permitted role and a layout for each class. -/
theorem exists_plan_iff_classes :
    (∃ planned, (g.plan api).outcome = .ok planned) ↔
      (∀ cls ∈ (g.completed api).classes, g.roleFault? cls = none ∧
        ∃ layout, (g.completed api).layout (g.context (g.completed api)).naming cls = .ok layout) ∧
      ∃ constants, g.constants = .ok constants := by
  simp only [forall_and, ← outcome_checkRoles_eq_ok_iff, ← exists_layouts_iff]
  simp only [outcome_plan_eq_ok_iff]
  constructor
  · rintro ⟨_, roles, layouts, constants, found, read, _⟩
    exact ⟨⟨roles, layouts, found⟩, constants, read⟩
  · rintro ⟨⟨roles, layouts, found⟩, constants, read⟩
    exact ⟨_, roles, layouts, constants, found, read, rfl⟩

end Generator

end Bindery
