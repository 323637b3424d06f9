import Bindery.Failure
import Bindery.Model
import Bindery.RootStruct

/-! # Ancestry

The parent of a class is the first class with its parent's logical name, or else the first with its
parent's struct name. Walking from a class to its parents ends at a class whose parent struct is a
root; the classes on the way, root first, are the ancestry. The walk fails when it meets a struct
name for the second time, or a class whose parent is neither a root nor to be found.

Struct names on the way are pairwise different and belong to classes of the interface, which bounds
the walk by the number of classes.
-/

namespace Bindery

/-- The classes from the root to a class itself, and the root they hang off. -/
structure Ancestry where
  chain : List NativeClass
  root : RootStruct

namespace NativeApi

/-- The class that another one derives from. -/
def parent? (api : NativeApi) (cls : NativeClass) : Option NativeClass :=
  (api.classNamed? cls.parentName).or (api.classWithAbiName? cls.parentAbiName)

theorem mem_of_parent? {api : NativeApi} {cls parent : NativeClass}
    (found : api.parent? cls = some parent) : parent ∈ api.classes := by
  rw [parent?, Option.or_eq_some_iff] at found
  rcases found with named | ⟨_, named⟩
  · exact List.mem_of_find?_eq_some named
  · exact List.mem_of_find?_eq_some named

/-- The classes of an interface whose struct names do not occur in a chain. -/
def unvisited (api : NativeApi) (chain : List NativeClass) : List NativeClass :=
  api.classes.filter fun cls => !(chain.map (·.abiName)).contains cls.abiName

theorem length_unvisited_cons_le (api : NativeApi) (cls : NativeClass) (chain : List NativeClass) :
    (api.unvisited (cls :: chain)).length ≤ (api.unvisited chain).length := by
  apply List.Sublist.length_le
  simp only [unvisited, List.map_cons, List.contains_cons, Bool.not_or]
  rw [← List.filter_filter]
  exact List.filter_sublist

theorem length_unvisited_cons_lt {api : NativeApi} {cls : NativeClass} {chain : List NativeClass}
    (inside : cls ∈ api.classes) (fresh : cls.abiName ∉ chain.map (·.abiName)) :
    (api.unvisited (cls :: chain)).length < (api.unvisited chain).length := by
  simp only [unvisited, List.map_cons, List.contains_cons, Bool.not_or]
  rw [← List.filter_filter]
  refine List.length_filter_lt_length_iff_exists.mpr ⟨cls, ?_, by simp⟩
  simp [List.mem_filter, inside]
  simpa using fresh

/-- What a class calls the parent that could not be found. -/
def missingBase (cls : NativeClass) : String :=
  if cls.parentAbiName.isEmpty then cls.parentName else cls.parentAbiName

/-- Walks from the class `current`, which was reached from `leaf` by way of the classes of `chain`,
nearest first. -/
def walk (api : NativeApi) (leaf : NativeClass) (chain : List NativeClass) (current : NativeClass) :
    Except Failure Ancestry :=
  if _visited : current.abiName ∈ chain.map (·.abiName) then
    .error (.inheritanceCycle current.name)
  else
    match RootStruct.ofAbiName? current.parentAbiName with
    | some root => .ok ⟨current :: chain, root⟩
    | none =>
      match _found : api.parent? current with
      | none => .error (.unsupportedBase leaf.name (missingBase current))
      | some parent => api.walk leaf (current :: chain) parent
termination_by (api.unvisited chain).length + if current ∈ api.classes then 0 else 1
decreasing_by
  have inside := mem_of_parent? _found
  by_cases own : current ∈ api.classes
  · have := length_unvisited_cons_lt own _visited
    simp only [inside, own, if_true]
    omega
  · have := length_unvisited_cons_le api current chain
    simp only [inside, own, if_true, if_false]
    omega

/-- The ancestry of a class. -/
def ancestry (api : NativeApi) (cls : NativeClass) : Except Failure Ancestry := api.walk cls [] cls

end NativeApi

end Bindery
