import Bindery.Proofs.Source.Openness

/-! # Planned bases

A class is classified by itself, and planning does not compare the classification of a class with
that of its parent. So what a proxy derives from may be closed to it, or no proxy at all. Main
statement: the parent whose wrapper a planned proxy derives from is itself planned as a proxy that
can be derived from exactly when it is classified as a proxy and as abstract
(`Generator.plansOpen_parent_iff`).
-/

namespace Bindery

namespace Wrapper

variable {ctx : Context} {cls : NativeClass} {layout : Layout}

theorem fileWith_injective (ctx : Context) (cls : NativeClass) :
    Function.Injective (fileWith ctx cls) := by
  intro first second same
  simp only [fileWith, Code.sourceFile, Code.block] at same
  exact List.append_cancel_left (List.append_cancel_right (List.cons.inj (List.cons.inj same).2).2)

theorem handler_ne_proxy :
    HandlerClass.wrapper ctx cls layout ≠ ProxyClass.wrapper ctx cls layout := by
  intro same
  have headings : HandlerClass.heading ctx cls = ProxyClass.heading ctx cls layout :=
    Directive.enter.inj (List.cons.inj same).1
  have texts := congrArg String.toList headings
  revert texts
  unfold HandlerClass.heading ProxyClass.heading
  cases ctx.classification.isAbstract cls.name <;> simp [toString]

/-- The wrapper file of a class has a proxy in it exactly when the class is classified as one. -/
theorem file_eq_proxy_iff :
    file ctx cls layout = fileWith ctx cls (ProxyClass.wrapper ctx cls layout) ↔
      (ctx.role cls).isProxy = true := by
  constructor
  · intro same
    by_contra other
    have parts : (if (ctx.role cls).isHandler then HandlerClass.wrapper ctx cls layout else []) =
        ProxyClass.wrapper ctx cls layout := by
      apply fileWith_injective ctx cls
      rw [← same]
      simp only [file, other, if_false, fileWith]
    split at parts
    · exact handler_ne_proxy parts
    · exact List.cons_ne_nil _ _ parts.symm
  · intro isProxy
    simp only [file, isProxy, if_true, fileWith]

end Wrapper

namespace NativeApi

/-- A class whose parent is no root is not next to one. -/
theorem isRootChild_eq_false {api : NativeApi} {naming : Naming} {cls : NativeClass}
    {layout : Layout} (laid : api.layout naming cls = .ok layout)
    (notRoot : RootStruct.ofAbiName? cls.parentAbiName = none) : layout.isRootChild = false := by
  obtain ⟨⟨chain, root⟩, walked, rfl⟩ := layout_eq_ok_iff.mp laid
  cases (ancestry_eq_ok_iff.mp walked).1 with
  | root derives =>
    rw [notRoot] at derives
    contradiction
  | @parent _ _ above _ _ _ higher =>
    have filled : above ≠ [] := by
      rintro rfl
      exact absurd higher.getLast?_eq nofun
    simpa [Layout.isRootChild, Layout.ofAncestry] using filled

end NativeApi

namespace Generator

variable {g : Generator} {api : NativeApi} {planned : List Artifact} {cls parent : NativeClass}

/-- The wrapper of a class is planned, and it is a proxy. -/
structure PlansProxy (g : Generator) (api : NativeApi) (planned : List Artifact)
    (cls : NativeClass) (layout : Layout) : Prop where
  laid : (g.completed api).layout (g.context (g.completed api)).naming cls = .ok layout
  mem : wrapperArtifact (g.context (g.completed api)) cls layout ∈ planned
  part : Wrapper.file (g.context (g.completed api)) cls layout =
    Wrapper.fileWith (g.context (g.completed api)) cls
      (ProxyClass.wrapper (g.context (g.completed api)) cls layout)

/-- The wrapper of a class is planned as a proxy that derives from the wrapper of the class's
parent. -/
structure PlansDerived (g : Generator) (api : NativeApi) (planned : List Artifact)
    (cls parent : NativeClass) : Prop where
  resolved : (g.completed api).parent? cls = some parent
  derives : ∃ layout, g.PlansProxy api planned cls layout ∧ layout.isRootChild = false ∧
    ProxyClass.heading (g.context (g.completed api)) cls layout =
      ProxyClass.headingOver (g.context (g.completed api)) cls
        ((g.context (g.completed api)).wrapperName parent)

/-- The wrapper of a class is planned as a proxy that can be derived from. -/
def PlansOpen (g : Generator) (api : NativeApi) (planned : List Artifact) (cls : NativeClass) :
    Prop :=
  ∃ layout, g.PlansProxy api planned cls layout ∧
    ProxyClass.IsOpen (g.context (g.completed api)) cls layout

/-- A proxy whose parent is no root derives from the wrapper of its parent where both are shown
under one name. -/
theorem plansDerived_of_shown (found : (g.plan api).outcome = .ok planned)
    (member : cls ∈ (g.completed api).classes)
    (isProxy : g.classification.isProxy cls.name = true)
    (notRoot : RootStruct.ofAbiName? cls.parentAbiName = none)
    (resolved : (g.completed api).parent? cls = some parent)
    (shown : g.classification.displayName cls.parentName =
      g.classification.displayName parent.name) :
    g.PlansDerived api planned cls parent := by
  obtain ⟨layout, laid, wrapped⟩ := exists_wrapper_of_plan found member
  have derived : layout.isRootChild = false := NativeApi.isRootChild_eq_false laid notRoot
  have heading : ProxyClass.heading (g.context (g.completed api)) cls layout = _ :=
    ProxyClass.heading_of_derived derived
  have base : g.classification.displayName cls.parentName =
      (g.context (g.completed api)).wrapperName parent := shown
  refine ⟨resolved, layout, ⟨laid, wrapped, Wrapper.file_eq_proxy_iff.mpr isProxy⟩, derived, ?_⟩
  rw [heading, ← base]
  rfl

/-- What a planned proxy derives from is planned as a proxy that can be derived from exactly when
the classification says that it is a proxy and abstract. -/
theorem plansOpen_parent_iff (found : (g.plan api).outcome = .ok planned)
    (derived : g.PlansDerived api planned cls parent) :
    g.PlansOpen api planned parent ↔
      g.classification.isProxy parent.name = true ∧
        g.classification.isAbstract parent.name = true := by
  have member : parent ∈ (g.completed api).classes := NativeApi.mem_of_parent? derived.resolved
  constructor
  · rintro ⟨layout, plans, isOpen⟩
    have isProxy := Wrapper.file_eq_proxy_iff.mp plans.part
    have isAbstract := ProxyClass.isOpen_iff.mp isOpen
    exact ⟨isProxy, isAbstract⟩
  · rintro ⟨isProxy, isAbstract⟩
    obtain ⟨layout, laid, wrapped⟩ := exists_wrapper_of_plan found member
    exact ⟨layout, ⟨laid, wrapped, Wrapper.file_eq_proxy_iff.mpr isProxy⟩,
      ProxyClass.isOpen_iff.mpr isAbstract⟩

/-- An interface in which one class derives from another. -/
def documents : NativeApi := ⟨[ProxyClass.node, ProxyClass.document "Node"], []⟩

/-- A generator for which both of these classes are proxies, and the parent is abstract or not. -/
def forDocuments (isAbstract : Bool) : Generator :=
  .plain { Settings.default with syntheticClasses := [] }
    ((Classification.empty.insert "Document" (.ofRole .proxy)).insert "Node"
      { Traits.ofRole .proxy with isAbstract }) Dictionary.empty

/-- Whether the parent is abstract is not asked in planning. -/
theorem exists_plan_documents (isAbstract : Bool) :
    ∃ planned, ((forDocuments isAbstract).plan documents).outcome = .ok planned ∧
      (forDocuments isAbstract).PlansDerived documents planned (ProxyClass.document "Node")
        ProxyClass.node := by
  have walked : documents.ancestry (ProxyClass.document "Node") =
      .ok ⟨[ProxyClass.node, ProxyClass.document "Node"], .refCounted⟩ := by
    cbv
  have walkedAbove : documents.ancestry ProxyClass.node = .ok ⟨[ProxyClass.node], .refCounted⟩ := by
    cbv
  have complete : (forDocuments isAbstract).completed documents = documents := rfl
  obtain ⟨planned, found⟩ :
      ∃ planned, ((forDocuments isAbstract).plan documents).outcome = .ok planned := by
    rw [exists_plan_iff_classes, complete]
    refine ⟨List.forall_mem_cons.mpr ⟨⟨?_, ?_⟩, List.forall_mem_singleton.mpr ⟨?_, ?_⟩⟩, none, rfl⟩
    · cases isAbstract <;> rfl
    · exact ⟨_, NativeApi.layout_eq_ok_iff.mpr ⟨_, walkedAbove, rfl⟩⟩
    · cases isAbstract <;> rfl
    · exact ⟨_, NativeApi.layout_eq_ok_iff.mpr ⟨_, walked, rfl⟩⟩
  have member : ProxyClass.document "Node" ∈ documents.classes := by decide
  refine ⟨planned, found, plansDerived_of_shown found (complete ▸ member) ?_ rfl rfl ?_⟩ <;>
    cases isAbstract <;> rfl

theorem plansOpen_parent_iff_abstract :
    ∃ planned, ((forDocuments true).plan documents).outcome = .ok planned ∧
      (forDocuments true).PlansDerived documents planned (ProxyClass.document "Node")
        ProxyClass.node ∧
      (forDocuments true).PlansOpen documents planned ProxyClass.node := by
  obtain ⟨planned, found, derived⟩ := exists_plan_documents true
  exact ⟨planned, found, derived, (plansOpen_parent_iff found derived).mpr ⟨rfl, rfl⟩⟩

/-- A proxy derives from a sealed one where the classification does not open the parent. -/
theorem not_plansOpen_parent_of_sealed :
    ∃ planned, ((forDocuments false).plan documents).outcome = .ok planned ∧
      (forDocuments false).PlansDerived documents planned (ProxyClass.document "Node")
        ProxyClass.node ∧
      ¬(forDocuments false).PlansOpen documents planned ProxyClass.node := by
  obtain ⟨planned, found, derived⟩ := exists_plan_documents false
  refine ⟨planned, found, derived, fun isOpen => ?_⟩
  obtain ⟨layout, _, isOpen⟩ := isOpen
  exact absurd (ProxyClass.isOpen_iff.mp isOpen) (by decide)

end Generator

end Bindery
