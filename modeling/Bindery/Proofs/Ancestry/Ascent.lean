import Bindery.Ancestry

/-! # Ascents

An ascent is a chain of classes in which each is the parent of the next, from a class that derives
from a root down to a given class. It may pass a struct name more than once; the walk does not
follow such a chain to its end. Main statement: the walk from a class succeeds with exactly the
ascents whose struct names are pairwise different (`ancestry_eq_ok_iff`). Hence an ancestry without
its last class is the ancestry of the parent (`ancestry_parent`).
-/

namespace Bindery.NativeApi

/-- The classes from the one next to a root down to a class, and that root. -/
inductive Ascent (api : NativeApi) : NativeClass → List NativeClass → RootStruct → Prop
  | root {cls : NativeClass} {root : RootStruct} :
      RootStruct.ofAbiName? cls.parentAbiName = some root → Ascent api cls [cls] root
  | parent {cls parent : NativeClass} {above : List NativeClass} {root : RootStruct} :
      RootStruct.ofAbiName? cls.parentAbiName = none → api.parent? cls = some parent →
      Ascent api parent above root → Ascent api cls (above ++ [cls]) root

variable {api : NativeApi} {leaf cls : NativeClass} {root : RootStruct}
  {chain above : List NativeClass}

/-! ## One step of the walk -/

theorem walk_of_visited (visited : cls.abiName ∈ chain.map (·.abiName)) :
    api.walk leaf chain cls = .error (.inheritanceCycle cls.name) := by
  rw [walk, dif_pos visited]

theorem walk_of_root (unvisited : cls.abiName ∉ chain.map (·.abiName))
    (found : RootStruct.ofAbiName? cls.parentAbiName = some root) :
    api.walk leaf chain cls = .ok ⟨cls :: chain, root⟩ := by
  rw [walk, dif_neg unvisited]
  simp only [found]

theorem walk_of_missing (unvisited : cls.abiName ∉ chain.map (·.abiName))
    (notRoot : RootStruct.ofAbiName? cls.parentAbiName = none)
    (missing : api.parent? cls = none) :
    api.walk leaf chain cls = .error (.unsupportedBase leaf.name (missingBase cls)) := by
  rw [walk, dif_neg unvisited]
  simp only [notRoot]
  split
  · rfl
  · next found => rw [missing] at found; contradiction

theorem walk_of_parent {parent : NativeClass} (unvisited : cls.abiName ∉ chain.map (·.abiName))
    (notRoot : RootStruct.ofAbiName? cls.parentAbiName = none)
    (found : api.parent? cls = some parent) :
    api.walk leaf chain cls = api.walk leaf (cls :: chain) parent := by
  rw [walk, dif_neg unvisited]
  simp only [notRoot]
  split
  · next missing => rw [found] at missing; contradiction
  · next other same =>
    obtain rfl := Option.some.inj (found.symm.trans same)
    rfl

/-! ## Successful walks -/

/-- An ascent ends in the class that it is the ascent of. -/
theorem Ascent.getLast?_eq (ascent : api.Ascent cls chain root) : chain.getLast? = some cls := by
  cases ascent with
  | root => rfl
  | parent => exact List.getLast?_concat

/-- A chain of two classes or more ends in a class with a parent, whose own ascent it extends. -/
theorem Ascent.exists_parent (ascent : api.Ascent cls chain root) (long : 2 ≤ chain.length) :
    ∃ parent above, api.parent? cls = some parent ∧ api.Ascent parent above root ∧
      chain = above ++ [cls] := by
  cases ascent with
  | root => simp at long
  | parent _ found higher => exact ⟨_, _, found, higher, rfl⟩

/-- The walk follows an ascent that meets no struct name twice, and none that was met before. -/
theorem Ascent.walk_eq (ascent : api.Ascent cls above root) (leaf : NativeClass)
    (distinct : ((above ++ chain).map (·.abiName)).Nodup) :
    api.walk leaf chain cls = .ok ⟨above ++ chain, root⟩ := by
  induction ascent generalizing chain with
  | root found => exact walk_of_root (List.nodup_cons.mp distinct).1 found
  | parent notRoot found _ ih =>
    rw [List.append_assoc, List.singleton_append] at distinct ⊢
    rw [walk_of_parent _ notRoot found]
    · exact ih distinct
    · rw [List.map_append] at distinct
      exact (List.nodup_cons.mp (List.nodup_append.mp distinct).2.1).1

/-- What the walk answers is an ascent put in front of the chain that it was given. -/
theorem ascent_of_walk {ancestry : Ancestry} (walked : api.walk leaf chain cls = .ok ancestry)
    (distinct : (chain.map (·.abiName)).Nodup) :
    ∃ above, api.Ascent cls above ancestry.root ∧ ancestry.chain = above ++ chain ∧
      (ancestry.chain.map (·.abiName)).Nodup := by
  induction chain, cls using walk.induct api with
  | case1 chain cls visited => rw [walk_of_visited visited] at walked; contradiction
  | case2 chain cls unvisited root found =>
    rw [walk_of_root unvisited found] at walked
    obtain rfl := Except.ok.inj walked
    exact ⟨[cls], .root found, rfl, List.nodup_cons.mpr ⟨unvisited, distinct⟩⟩
  | case3 chain cls unvisited notRoot missing =>
    rw [walk_of_missing unvisited notRoot missing] at walked
    contradiction
  | case4 chain cls unvisited notRoot parent found ih =>
    rw [walk_of_parent unvisited notRoot found] at walked
    obtain ⟨above, ascent, together, fresh⟩ :=
      ih walked (List.nodup_cons.mpr ⟨unvisited, distinct⟩)
    exact ⟨above ++ [cls], .parent notRoot found ascent, by simpa using together, fresh⟩

/-- An ancestry is an ascent that meets no struct name twice. -/
theorem ancestry_eq_ok_iff {ancestry : Ancestry} :
    api.ancestry cls = .ok ancestry ↔
      api.Ascent cls ancestry.chain ancestry.root ∧
        (ancestry.chain.map (·.abiName)).Nodup := by
  constructor
  · intro walked
    obtain ⟨above, ascent, same, distinct⟩ := ascent_of_walk walked List.nodup_nil
    rw [List.append_nil] at same
    exact ⟨same ▸ ascent, distinct⟩
  · rintro ⟨ascent, distinct⟩
    rw [← List.append_nil ancestry.chain] at distinct
    have walked := ascent.walk_eq cls distinct
    rw [List.append_nil] at walked
    exact walked

/-- The ancestry of a parent is that of its child without the child. -/
theorem ancestry_parent {ancestry : Ancestry} (walked : api.ancestry cls = .ok ancestry)
    (long : 2 ≤ ancestry.chain.length) :
    ∃ parent above, api.parent? cls = some parent ∧ ancestry.chain = above ++ [cls] ∧
      above.getLast? = some parent ∧ api.ancestry parent = .ok ⟨above, ancestry.root⟩ := by
  obtain ⟨ascent, distinct⟩ := ancestry_eq_ok_iff.mp walked
  obtain ⟨parent, above, found, higher, same⟩ := ascent.exists_parent long
  rw [same, List.map_append] at distinct
  exact ⟨parent, above, found, same, higher.getLast?_eq,
    ancestry_eq_ok_iff.mpr ⟨higher, (List.nodup_append.mp distinct).1⟩⟩

end Bindery.NativeApi
