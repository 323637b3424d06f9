import Mathlib.Data.List.Sort
import Bindery.Proofs.Ancestry.Agreement
import Bindery.Proofs.Generator.Outcome
import Bindery.Proofs.Source.Agreement

/-! # Completed interfaces

A completed interface has the classes of the interface and, after them, the synthetic classes whose
names it lacks. Which ones these are depends on the names of the interface alone. Main statements:
interfaces with the same names are completed by the same classes (`additions_congr`), and the order
in which classes are generated follows from their names where these are pairwise different
(`sortedClasses_congr`); a class more takes its place among the others without moving them
(`exists_sortedClasses_insert`).
-/

namespace Bindery

namespace Generator

variable {g : Generator} {api : NativeApi}

/-- The synthetic classes whose names are not known yet, as classes. -/
def additions (known : List String) : List SyntheticClass → List NativeClass
  | [] => []
  | cls :: rest =>
    if cls.name ∈ known then additions known rest
    else cls.toClass :: additions (known ++ [cls.name]) rest

theorem foldl_additions (synthetic : List SyntheticClass) (api : NativeApi) :
    synthetic.foldl
      (fun api cls =>
        if (api.classNamed? cls.name).isSome then api
        else { api with classes := api.classes ++ [cls.toClass] })
      api =
    ⟨api.classes ++ additions (api.classes.map (·.name)) synthetic, api.functions⟩ := by
  induction synthetic generalizing api with
  | nil => rw [additions, List.append_nil]; rfl
  | cons cls rest ih =>
    have known : (api.classNamed? cls.name).isSome ↔ cls.name ∈ api.classes.map (·.name) := by
      simp [NativeApi.classNamed?, List.find?_isSome]
    rw [List.foldl_cons, additions]
    by_cases there : cls.name ∈ api.classes.map (·.name)
    · rw [if_pos (known.mpr there), if_pos there, ih]
    · rw [if_neg (mt known.mp there), if_neg there, ih, List.map_append, List.append_assoc]
      rfl

theorem completed_eq (g : Generator) (api : NativeApi) :
    g.completed api =
      ⟨api.classes ++ additions (api.classes.map (·.name)) g.settings.syntheticClasses,
        api.functions⟩ :=
  foldl_additions g.settings.syntheticClasses api

@[simp] theorem functions_completed (g : Generator) (api : NativeApi) :
    (g.completed api).functions = api.functions := by rw [completed_eq]

/-- What is added depends on which of the synthetic names are known. -/
theorem additions_congr {first second : List String} {synthetic : List SyntheticClass}
    (same : ∀ cls ∈ synthetic, (cls.name ∈ first ↔ cls.name ∈ second)) :
    additions first synthetic = additions second synthetic := by
  induction synthetic generalizing first second with
  | nil => rfl
  | cons cls rest ih =>
    obtain ⟨here, later⟩ := List.forall_mem_cons.mp same
    rw [additions, additions]
    by_cases known : cls.name ∈ first
    · rw [if_pos known, if_pos (here.mp known), ih later]
    · rw [if_neg known, if_neg (mt here.mpr known)]
      refine congrArg (cls.toClass :: ·) (ih fun other member => ?_)
      rw [List.mem_append, List.mem_append, later other member]

theorem nodup_names_additions {known : List String} (distinct : known.Nodup)
    (synthetic : List SyntheticClass) :
    (known ++ (additions known synthetic).map (·.name)).Nodup := by
  induction synthetic generalizing known with
  | nil => rwa [additions, List.map_nil, List.append_nil]
  | cons cls rest ih =>
    rw [additions]
    split
    · exact ih distinct
    · next fresh =>
      have longer : (known ++ [cls.name]).Nodup := by
        refine List.nodup_append.mpr ⟨distinct, List.nodup_singleton _, ?_⟩
        rintro name member _ last rfl
        exact fresh (List.mem_singleton.mp last ▸ member)
      rw [List.map_cons, ← List.singleton_append, ← List.append_assoc]
      exact ih longer

/-- Completing an interface leaves class names pairwise different. -/
theorem nodup_names_completed (distinct : (api.classes.map (·.name)).Nodup) :
    ((g.completed api).classes.map (·.name)).Nodup := by
  rw [completed_eq, List.map_append]
  exact nodup_names_additions distinct g.settings.syntheticClasses

theorem exists_name_additions {known : List String} {synthetic : List SyntheticClass}
    {cls : SyntheticClass} (member : cls ∈ synthetic) :
    cls.name ∈ known ++ (additions known synthetic).map (·.name) := by
  induction synthetic generalizing known with
  | nil => exact absurd member List.not_mem_nil
  | cons first rest ih =>
    rw [additions]
    rcases List.mem_cons.mp member with rfl | later
    · split
      · next there => exact List.mem_append_left _ there
      · simp [SyntheticClass.toClass, NativeClass.bare]
    · split
      · exact ih later
      · rw [List.map_cons, ← List.singleton_append, ← List.append_assoc]
        exact ih later

/-- Every synthetic class is, by name, a class of the completed interface. -/
theorem exists_completed_of_synthetic (api : NativeApi) {cls : SyntheticClass}
    (member : cls ∈ g.settings.syntheticClasses) :
    ∃ complete ∈ (g.completed api).classes, complete.name = cls.name := by
  rw [completed_eq, ← List.mem_map, List.map_append]
  exact exists_name_additions member

theorem mapM_congr {α β : Type} {f g : α → Except Failure β} {items : List α}
    (same : ∀ item ∈ items, f item = g item) : items.mapM f = items.mapM g := by
  induction items with
  | nil => rfl
  | cons item rest ih =>
    obtain ⟨here, later⟩ := List.forall_mem_cons.mp same
    rw [List.mapM_cons, List.mapM_cons, here, ih later]

/-- An interface that keeps the parents of another one's classes keeps their layouts. -/
theorem layout_congr (g : Generator) {other : NativeApi} (keeps : api.KeepsParents other)
    {cls : NativeClass} (inside : cls ∈ api.classes) :
    other.layout (g.context other).naming cls = api.layout (g.context api).naming cls := by
  have one : Layout.ofAncestry (g.context other).naming cls =
      Layout.ofAncestry (g.context api).naming cls :=
    funext fun _ => (g.alike_context other api _).ofAncestry_eq
  rw [NativeApi.layout, NativeApi.layout, NativeApi.ancestry_congr keeps inside, one]

end Generator

namespace NativeApi

/-! ## Classes by name -/

theorem name_le_trans (a b c : NativeClass) (first : decide (a.name ≤ b.name) = true)
    (second : decide (b.name ≤ c.name) = true) : decide (a.name ≤ c.name) = true :=
  decide_eq_true (String.le_trans (of_decide_eq_true first) (of_decide_eq_true second))

theorem name_le_total (a b : NativeClass) :
    (decide (a.name ≤ b.name) || decide (b.name ≤ a.name)) = true := by
  simpa using String.le_total a.name b.name

/-- Sorting comes out the same for all orders of classes of pairwise different names. -/
theorem sortedClasses_congr {first second : NativeApi} (perm : first.classes.Perm second.classes)
    (distinct : (first.classes.map (·.name)).Nodup) :
    first.sortedClasses = second.sortedClasses := by
  have antisymm : ∀ a b, a ∈ first.sortedClasses → b ∈ second.sortedClasses →
      decide (a.name ≤ b.name) = true → decide (b.name ≤ a.name) = true → a = b := by
    intro a b here there below above
    have same : a.name = b.name :=
      String.le_antisymm (of_decide_eq_true below) (of_decide_eq_true above)
    exact List.inj_on_of_nodup_map distinct (mem_sortedClasses.mp here)
      (perm.mem_iff.mpr (mem_sortedClasses.mp there)) same
  exact List.Perm.eq_of_pairwise antisymm (List.pairwise_mergeSort name_le_trans name_le_total _)
    (List.pairwise_mergeSort name_le_trans name_le_total _)
    ((List.mergeSort_perm _ _).trans (perm.trans (List.mergeSort_perm _ _).symm))

/-- Puts a class before the first class whose name is not smaller. -/
def place (cls : NativeClass) (classes : List NativeClass) : List NativeClass :=
  classes.orderedInsert (fun a b => a.name ≤ b.name) cls

theorem place_of_le {cls first : NativeClass} (rest : List NativeClass)
    (below : cls.name ≤ first.name) : place cls (first :: rest) = cls :: first :: rest :=
  List.orderedInsert_cons_of_le (fun a b : NativeClass => a.name ≤ b.name) rest below

theorem place_of_not_le {cls first : NativeClass} (rest : List NativeClass)
    (above : ¬ cls.name ≤ first.name) : place cls (first :: rest) = first :: place cls rest :=
  List.orderedInsert_of_not_le (fun a b : NativeClass => a.name ≤ b.name) rest above

/-- A class that is not above any other comes first. -/
theorem place_of_forall_le {cls : NativeClass} {classes : List NativeClass}
    (below : ∀ other ∈ classes, cls.name ≤ other.name) : place cls classes = cls :: classes := by
  cases classes with
  | nil => rfl
  | cons first rest => exact place_of_le rest (below first List.mem_cons_self)

/-- Sorting puts the first class to its place among the others. -/
theorem sortedClasses_cons (cls : NativeClass) (rest : List NativeClass)
    (functions : List NativeFunction) :
    sortedClasses ⟨cls :: rest, functions⟩ = place cls (sortedClasses ⟨rest, functions⟩) := by
  obtain ⟨smaller, others, all, without, less⟩ :=
    List.mergeSort_cons name_le_trans name_le_total cls rest
  have ordered := List.pairwise_mergeSort name_le_trans name_le_total (cls :: rest)
  rw [all, List.pairwise_append, List.pairwise_cons] at ordered
  simp only [sortedClasses]
  rw [all, without]
  clear all without
  induction smaller with
  | nil => exact (place_of_forall_le fun other member =>
      of_decide_eq_true (ordered.2.1.1 other member)).symm
  | cons first smaller ih =>
    obtain ⟨here, later⟩ := List.forall_mem_cons.mp less
    obtain ⟨first_le, rest_le, between⟩ := ordered
    rw [List.cons_append, List.cons_append, place_of_not_le _ (by simpa using here)]
    exact congrArg (first :: ·) (ih later ⟨first_le.of_cons, rest_le, fun a member =>
      between a (List.mem_cons_of_mem first member)⟩)

/-- A class that is placed among others finds the same place with one of them missing. -/
theorem exists_place_insert {smaller others : List NativeClass} {added : NativeClass}
    (ordered : (smaller ++ added :: others).Pairwise fun a b => a.name ≤ b.name)
    (cls : NativeClass) : ∃ before after,
      place cls (smaller ++ added :: others) = before ++ added :: after ∧
        place cls (smaller ++ others) = before ++ after := by
  induction smaller with
  | nil =>
    have above := (List.pairwise_cons.mp ordered).1
    by_cases below : cls.name ≤ added.name
    · refine ⟨[cls], others, place_of_le _ below, place_of_forall_le fun other member => ?_⟩
      exact String.le_trans below (above other member)
    · exact ⟨[], place cls others, place_of_not_le _ below, rfl⟩
  | cons first rest ih =>
    rw [List.cons_append, List.cons_append]
    by_cases below : cls.name ≤ first.name
    · rw [place_of_le _ below, place_of_le _ below]
      exact ⟨cls :: first :: rest, others, rfl, rfl⟩
    · obtain ⟨before, after, all, without⟩ := ih ordered.of_cons
      rw [place_of_not_le _ below, place_of_not_le _ below, all, without]
      exact ⟨first :: before, after, rfl, rfl⟩

/-- A class more stands somewhere among the sorted classes, and the others stand as they did. -/
theorem exists_sortedClasses_insert (before after : List NativeClass) (added : NativeClass)
    (functions : List NativeFunction) : ∃ smaller others,
      sortedClasses ⟨before ++ added :: after, functions⟩ = smaller ++ added :: others ∧
        sortedClasses ⟨before ++ after, functions⟩ = smaller ++ others := by
  induction before with
  | nil =>
    obtain ⟨smaller, others, all, without, _⟩ :=
      List.mergeSort_cons name_le_trans name_le_total added after
    exact ⟨smaller, others, all, without⟩
  | cons cls rest ih =>
    obtain ⟨smaller, others, all, without⟩ := ih
    have ordered : (sortedClasses ⟨rest ++ added :: after, functions⟩).Pairwise
        fun a b => decide (a.name ≤ b.name) = true :=
      List.pairwise_mergeSort name_le_trans name_le_total _
    rw [List.cons_append, List.cons_append, sortedClasses_cons, sortedClasses_cons, all, without]
    exact exists_place_insert (by simpa [all] using ordered) cls

end NativeApi

end Bindery
