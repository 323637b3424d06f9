import Bindery.Proofs.Ancestry.Ascent
import Bindery.Proofs.Keys

/-! # Interfaces that agree on parents

The ancestry of a class depends on the interface only through the parents of the classes on the way.
Main statement: an interface that gives every class of another one the same parent gives it the same
ancestry (`ancestry_congr`), and the same failure where there is none.
-/

namespace Bindery.NativeApi

variable {api other : NativeApi}

/-- An interface gives the classes of another one the parents that they have there. Classes that
derive from a root are not asked for theirs. -/
def KeepsParents (api other : NativeApi) : Prop :=
  ∀ cls ∈ api.classes, RootStruct.ofAbiName? cls.parentAbiName = none →
    other.parent? cls = api.parent? cls

theorem KeepsParents.walk_eq (keeps : api.KeepsParents other) (leaf : NativeClass)
    {chain : List NativeClass} {cls : NativeClass} (inside : cls ∈ api.classes) :
    other.walk leaf chain cls = api.walk leaf chain cls := by
  induction chain, cls using walk.induct api with
  | case1 chain cls visited => rw [walk_of_visited visited, walk_of_visited visited]
  | case2 chain cls unvisited root found =>
    rw [walk_of_root unvisited found, walk_of_root unvisited found]
  | case3 chain cls unvisited notRoot missing =>
    have gone := keeps cls inside notRoot
    rw [walk_of_missing unvisited notRoot missing,
      walk_of_missing unvisited notRoot (gone.trans missing)]
  | case4 chain cls unvisited notRoot parent found ih =>
    have there := keeps cls inside notRoot
    rw [walk_of_parent unvisited notRoot found,
      walk_of_parent unvisited notRoot (there.trans found), ih (mem_of_parent? found)]

theorem ancestry_congr (keeps : api.KeepsParents other) {cls : NativeClass}
    (inside : cls ∈ api.classes) : other.ancestry cls = api.ancestry cls :=
  keeps.walk_eq cls inside

/-! ## Looking classes up by name -/

/-- A class that has an ancestry without deriving from a root has a parent. -/
theorem exists_parent_of_ancestry {cls : NativeClass} {ancestry : Ancestry}
    (walked : api.ancestry cls = .ok ancestry)
    (notRoot : RootStruct.ofAbiName? cls.parentAbiName = none) :
    ∃ parent, api.parent? cls = some parent := by
  obtain ⟨chain, root⟩ := ancestry
  cases (ancestry_eq_ok_iff.mp walked).1 with
  | root derives =>
    rw [notRoot] at derives
    contradiction
  | parent _ found _ => exact ⟨_, found⟩

/-- Where every class has a parent or derives from a root, another class is no one's parent unless
it is called so by its logical name, or by a struct name that it shares. -/
theorem keepsParents_insert {before after : List NativeClass} {added : NativeClass}
    (functions : List NativeFunction)
    (parents : ∀ cls ∈ before ++ after, RootStruct.ofAbiName? cls.parentAbiName = none →
      ∃ parent, parent? ⟨before ++ after, functions⟩ cls = some parent)
    (abiName : ∀ cls ∈ before ++ after, cls.abiName ≠ added.abiName)
    (parentName : ∀ cls ∈ before ++ after, cls.parentName ≠ added.name) :
    KeepsParents ⟨before ++ after, functions⟩ ⟨before ++ added :: after, functions⟩ := by
  intro cls member notRoot
  obtain ⟨parent, found⟩ := parents cls member notRoot
  have byName : classNamed? ⟨before ++ added :: after, functions⟩ cls.parentName =
      classNamed? ⟨before ++ after, functions⟩ cls.parentName :=
    find?_insert (by simpa using (parentName cls member).symm) before after
  rw [found]
  rw [parent?, Option.or_eq_some_iff] at found ⊢
  rw [byName]
  obtain byItsName | ⟨unnamed, there⟩ := found
  · exact .inl byItsName
  refine .inr ⟨unnamed, ?_⟩
  -- the class that is found by its struct name tells the added one from it
  have named : parent.abiName = cls.parentAbiName := by
    simpa using List.find?_some there
  have other : added.abiName ≠ cls.parentAbiName := by
    rw [← named]
    exact (abiName parent (List.mem_of_find?_eq_some there)).symm
  rw [← there]
  exact find?_insert (by simpa using other) before after

end Bindery.NativeApi
