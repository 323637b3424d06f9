import Mathlib
import Bindery.Documents
import Bindery.Proofs.Generator.Outcome

/-! # Roles of planned classes

Planning refuses a class whose role has no bit at all, and one whose role has both bits that have a
meaning. A role that has only bits without a meaning passes. Main statement: a plan gives every
class one role and one part of a wrapper, and the report counts every class once, exactly when no
class has a role of that kind (`oneRoleEach_iff`). There is such a role in a document
(`not_oneRoleEach_of_unknown_bit`).
-/

namespace Bindery

namespace Role

/-- The bits of a role that have a meaning. -/
def known (role : Role) : Role := ⟨role.bits &&& (handler.union proxy).bits⟩

/-- A byte has one of two bits set if it is not zero where both of them are. -/
private theorem masked_eq_zero_iff (bits : UInt8) :
    (bits &&& 3 == 0) = true ↔ (bits &&& 2 == 2) = false ∧ (bits &&& 1 == 1) = false := by
  have all : ∀ bits : Fin 256, (UInt8.ofFin bits &&& 3 == 0) = true ↔
      (UInt8.ofFin bits &&& 2 == 2) = false ∧ (UInt8.ofFin bits &&& 1 == 1) = false := by
    decide +kernel
  exact all bits.toFin

theorem isEmpty_known_iff (role : Role) :
    role.known.isEmpty = true ↔ role.isProxy = false ∧ role.isHandler = false :=
  masked_eq_zero_iff role.bits

/-- Of two roles that exclude each other a class has one exactly when a bit with a meaning is
set. -/
theorem isProxy_xor_isHandler_iff {role : Role}
    (exclusive : (role.isProxy && role.isHandler) = false) :
    (role.isProxy ^^ role.isHandler) = true ↔ role.known.isEmpty = false := by
  rw [← Bool.not_eq_true role.known.isEmpty, isEmpty_known_iff]
  cases callsOut : role.isProxy <;> cases calledBack : role.isHandler <;>
    simp_all only [Bool.and_true, Bool.and_false, Bool.xor_false, Bool.xor_true,
      Bool.not_false, and_self, and_true, and_false, reduceCtorEq, not_true_eq_false,
      not_false_eq_true]

end Role

/-- The wrapper file of a class with a given part. -/
def Wrapper.fileWith (ctx : Context) (cls : NativeClass) (part : Code) : Code :=
  Code.sourceFile ctx.settings.wrapperNamespace <|
    Code.usings ["System", "System.Collections.Generic", "System.Diagnostics",
      "System.Runtime.InteropServices", "System.Threading", ctx.settings.interopNamespace] ++
    ((ctx.classification.overview cls.name).map fun text => .line s!"// {text}") ++
    Code.documentation cls.comment ++ part

/-- The wrapper file of a class with one role has the part of that role. -/
theorem Wrapper.file_eq_of_one_role (ctx : Context) (cls : NativeClass) (layout : Layout)
    (one : (ctx.classification.isProxy cls.name ^^ ctx.classification.isHandler cls.name) = true) :
    ctx.classification.isHandler cls.name = false ∧
        file ctx cls layout = fileWith ctx cls (ProxyClass.wrapper ctx cls layout) ∨
      ctx.classification.isProxy cls.name = false ∧
        file ctx cls layout = fileWith ctx cls (HandlerClass.wrapper ctx cls layout) := by
  simp only [Classification.isProxy, Classification.isHandler] at one ⊢
  cases callsOut : (ctx.classification.role cls.name).isProxy with
  | true =>
    rw [callsOut] at one
    exact .inl ⟨by simpa using one, by simp only [file, Context.role, callsOut, if_true, fileWith]⟩
  | false =>
    have calledBack : (ctx.classification.role cls.name).isHandler = true := by
      simpa [callsOut] using one
    refine .inr ⟨rfl, ?_⟩
    simp only [file, Context.role, callsOut, calledBack, Bool.false_eq_true, if_true, if_false,
      fileWith]

namespace Generator

variable {g : Generator} {api : NativeApi} {planned : List Artifact}

theorem roleFault?_eq_none_iff {cls : NativeClass} :
    g.roleFault? cls = none ↔ (g.classification.role cls.name).isEmpty = false ∧
      ((g.classification.role cls.name).isProxy &&
        (g.classification.role cls.name).isHandler) = false := by
  simp only [roleFault?]
  split
  · next empty => simp [empty]
  · next filled =>
    split
    · next both => simp [both]
    · next exclusive => simp [filled, exclusive]

/-- What one of two tests holds of is counted once. -/
theorem length_filter_add_length_filter {α : Type} (p q : α → Bool) {items : List α}
    (one : ∀ item ∈ items, (p item ^^ q item) = true) :
    (items.filter p).length + (items.filter q).length = items.length := by
  induction items with
  | nil => rfl
  | cons item rest ih =>
    obtain ⟨here, later⟩ := List.forall_mem_cons.mp one
    have counted := ih later
    cases first : p item with
    | true =>
      have second : q item = false := by simpa [first] using here
      rw [List.filter_cons_of_pos first, List.filter_cons_of_neg (by simp [second]),
        List.length_cons, List.length_cons, ← counted, Nat.add_right_comm]
    | false =>
      have second : q item = true := by simpa [first] using here
      rw [List.filter_cons_of_neg (by simp [first]), List.filter_cons_of_pos second,
        List.length_cons, List.length_cons, ← counted, Nat.add_assoc]

/-- What a plan and its report promise of the roles of the classes: each class has one of the two,
its wrapper file has the part of that one, and the report counts it there. -/
structure OneRoleEach (g : Generator) (api : NativeApi) (planned : List Artifact) : Prop where
  roles : ∀ cls ∈ (g.completed api).classes,
    (g.classification.isProxy cls.name ^^ g.classification.isHandler cls.name) = true
  parts : ∀ cls ∈ (g.completed api).classes, ∃ layout,
    (g.completed api).layout (g.context (g.completed api)).naming cls = .ok layout ∧
      wrapperArtifact (g.context (g.completed api)) cls layout ∈ planned ∧
      (g.classification.isHandler cls.name = false ∧
          Wrapper.file (g.context (g.completed api)) cls layout =
            Wrapper.fileWith (g.context (g.completed api)) cls
              (ProxyClass.wrapper (g.context (g.completed api)) cls layout) ∨
        g.classification.isProxy cls.name = false ∧
          Wrapper.file (g.context (g.completed api)) cls layout =
            Wrapper.fileWith (g.context (g.completed api)) cls
              (HandlerClass.wrapper (g.context (g.completed api)) cls layout))
  report : ∃ report, (g.check api).outcome = .ok report ∧
    report.classes = (g.completed api).classes.length ∧
    report.proxies + report.handlers = report.classes

/-- Every class of a planned interface has a layout, and its wrapper is planned. -/
theorem exists_wrapper_of_plan (found : (g.plan api).outcome = .ok planned) {cls : NativeClass}
    (member : cls ∈ (g.completed api).classes) : ∃ layout,
    (g.completed api).layout (g.context (g.completed api)).naming cls = .ok layout ∧
      wrapperArtifact (g.context (g.completed api)) cls layout ∈ planned := by
  obtain ⟨_, layouts, constants, laid, _, rfl⟩ := outcome_plan_eq_ok_iff.mp found
  obtain ⟨same, each⟩ := outcome_layouts_eq_ok_iff.mp laid
  rw [← NativeApi.mem_sortedClasses, ← same] at member
  obtain ⟨entry, inside, rfl⟩ := List.mem_map.mp member
  refine ⟨entry.2, each entry inside, ?_⟩
  have wrapped := List.mem_map_of_mem
    (f := fun entry : NativeClass × Layout =>
      wrapperArtifact (g.context (g.completed api)) entry.1 entry.2) inside
  simp only [artifacts, List.mem_append]
  exact .inl (.inr wrapped)

/-- Where every class has one role, the report counts each of them once. -/
theorem report_of_roles {layouts : List (NativeClass × Layout)}
    (permitted : (g.checkRoles (g.completed api)).outcome = .ok ())
    (laid : (g.layouts (g.completed api)).outcome = .ok layouts)
    (roles : ∀ cls ∈ (g.completed api).classes,
      (g.classification.isProxy cls.name ^^ g.classification.isHandler cls.name) = true) :
    ∃ report, (g.check api).outcome = .ok report ∧
      report.classes = (g.completed api).classes.length ∧
      report.proxies + report.handlers = report.classes := by
  obtain ⟨same, _⟩ := outcome_layouts_eq_ok_iff.mp laid
  have each : ∀ entry ∈ layouts,
      (g.classification.isProxy entry.1.name ^^
        g.classification.isHandler entry.1.name) = true := by
    intro entry member
    refine roles entry.1 ?_
    rw [← NativeApi.mem_sortedClasses, ← same]
    exact List.mem_map_of_mem member
  have counted := length_filter_add_length_filter
    (fun entry : NativeClass × Layout => g.classification.isProxy entry.1.name)
    (fun entry => g.classification.isHandler entry.1.name) each
  have lengths : layouts.length = (g.completed api).classes.length := by
    rw [← NativeApi.length_sortedClasses, ← same, List.length_map]
  exact ⟨_, outcome_check_eq_ok_iff.mpr ⟨permitted, layouts, laid, rfl⟩, lengths, counted⟩

/-- A plan keeps its promise exactly when every class has a bit with a meaning in its role. -/
theorem oneRoleEach_iff (found : (g.plan api).outcome = .ok planned) :
    g.OneRoleEach api planned ↔ ∀ cls ∈ (g.completed api).classes,
      (g.classification.role cls.name).known.isEmpty = false := by
  obtain ⟨permitted, layouts, constants, laid, _, _⟩ := outcome_plan_eq_ok_iff.mp found
  have exclusive : ∀ cls ∈ (g.completed api).classes, ((g.classification.role cls.name).isProxy &&
      (g.classification.role cls.name).isHandler) = false := fun cls member =>
    (roleFault?_eq_none_iff.mp (outcome_checkRoles_eq_ok_iff.mp permitted cls member)).2
  have one : ∀ cls ∈ (g.completed api).classes,
      (g.classification.isProxy cls.name ^^ g.classification.isHandler cls.name) = true ↔
        (g.classification.role cls.name).known.isEmpty = false := fun cls member =>
    Role.isProxy_xor_isHandler_iff (exclusive cls member)
  constructor
  · intro promise cls member
    exact (one cls member).mp (promise.roles cls member)
  intro known
  have roles := fun cls member => (one cls member).mpr (known cls member)
  refine ⟨roles, ?_, ?_⟩
  · intro cls member
    obtain ⟨layout, laidOut, wrapped⟩ := exists_wrapper_of_plan found member
    have written := Wrapper.file_eq_of_one_role (g.context (g.completed api)) cls layout
      (roles cls member)
    exact ⟨layout, laidOut, wrapped, written⟩
  · exact report_of_roles permitted laid roles

/-- An interface with one class, which derives from the counted root. -/
def widget : NativeApi :=
  ⟨[.bare "Widget" "widget_t" "CefBaseRefCounted" "cef_base_ref_counted_t"], []⟩

/-- A generator that adds no classes and lists the class of that interface with a role. -/
def forWidget (role : Role) : Generator :=
  .plain { Settings.default with syntheticClasses := [] }
    (Classification.empty.insert "Widget" (.ofRole role)) Dictionary.empty

theorem oneRoleEach_iff_proxy : ∃ planned, ((forWidget .proxy).plan widget).outcome = .ok planned ∧
    ((forWidget .proxy).OneRoleEach widget planned ↔
      ∀ cls ∈ ((forWidget .proxy).completed widget).classes,
        ((forWidget .proxy).classification.role cls.name).known.isEmpty = false) := by
  have checked : ((forWidget .proxy).check widget).outcome = .ok ⟨1, 1, 0, 4, 0, []⟩ := by cbv
  obtain ⟨planned, found⟩ := exists_plan_iff.mpr ⟨⟨_, checked⟩, none, rfl⟩
  exact ⟨planned, found, oneRoleEach_iff found⟩

/-- A document can give a class a bit without a meaning and no other one. The class is planned
without a part, and the report counts it neither way. -/
theorem not_oneRoleEach_of_unknown_bit : ∃ schema planned,
    Classification.ofText "\x7b\"Widget\": \x7b\"role\": \"0x4\"\x7d\x7d" = .ok schema ∧
      Classification.empty.merge schema = (forWidget ⟨4⟩).classification ∧
      ((forWidget ⟨4⟩).plan widget).outcome = .ok planned ∧
      ((forWidget ⟨4⟩).check widget).outcome = .ok ⟨1, 0, 0, 4, 0, []⟩ ∧
      ¬(forWidget ⟨4⟩).OneRoleEach widget planned := by
  have read : Classification.ofText "\x7b\"Widget\": \x7b\"role\": \"0x4\"\x7d\x7d" =
      .ok (forWidget ⟨4⟩).classification := by cbv
  have checked : ((forWidget ⟨4⟩).check widget).outcome = .ok ⟨1, 0, 0, 4, 0, []⟩ := by cbv
  obtain ⟨planned, found⟩ := exists_plan_iff.mpr ⟨⟨_, checked⟩, none, rfl⟩
  refine ⟨_, planned, read, rfl, found, checked, fun promise => ?_⟩
  obtain ⟨report, counted, _, total⟩ := promise.report
  rw [checked] at counted
  rw [← Except.ok.inj counted] at total
  exact absurd total (by decide)

end Generator

end Bindery
