import Mathlib.Data.List.Chain
import Bindery.Proofs.Ancestry.Ascent

/-! # How the way to a root ends

From a class one passes to its parent, to the parent of that one, and so on; the classes passed so
far are a trail. A trail ends in one of three ways: at a class that derives from a root, at a class
whose struct name was passed before, or at a class whose parent is neither a root nor to be found.
Main statement: every class has exactly one trail that ends, that trail is no longer than the list
of classes and one more, and the ancestry of the class is what the ending asks for
(`ancestry_classified`).
-/

namespace Bindery.NativeApi

/-- The classes that are passed on the way from `leaf` up to another class, nearest to that class
first. The way does not go on above a class that derives from a root. -/
inductive Trail (api : NativeApi) (leaf : NativeClass) : List NativeClass → NativeClass → Prop
  | start : Trail api leaf [] leaf
  | onward {passed : List NativeClass} {cls parent : NativeClass} :
      Trail api leaf passed cls → RootStruct.ofAbiName? cls.parentAbiName = none →
      api.parent? cls = some parent → Trail api leaf (cls :: passed) parent

/-- The trail comes to a class that derives from a root, and no struct name came twice. -/
structure ReachesRoot (api : NativeApi) (leaf : NativeClass) (passed : List NativeClass)
    (last : NativeClass) (root : RootStruct) : Prop where
  trail : api.Trail leaf passed last
  distinct : ((last :: passed).map (·.abiName)).Nodup
  derives : RootStruct.ofAbiName? last.parentAbiName = some root

/-- The trail comes to a struct name that it passed before, for the first time. -/
structure ComesBack (api : NativeApi) (leaf : NativeClass) (passed : List NativeClass)
    (last : NativeClass) : Prop where
  trail : api.Trail leaf passed last
  distinct : (passed.map (·.abiName)).Nodup
  visited : last.abiName ∈ passed.map (·.abiName)

/-- The trail comes to a class without a root and without a parent, and no struct name came
twice. -/
structure FindsNothing (api : NativeApi) (leaf : NativeClass) (passed : List NativeClass)
    (last : NativeClass) : Prop where
  trail : api.Trail leaf passed last
  distinct : ((last :: passed).map (·.abiName)).Nodup
  notRoot : RootStruct.ofAbiName? last.parentAbiName = none
  missing : api.parent? last = none

/-- The endings of trails, each with the answer that it asks for. -/
inductive Ends (api : NativeApi) (leaf : NativeClass) (passed : List NativeClass)
    (last : NativeClass) : Except Failure Ancestry → Prop
  | atRoot {root : RootStruct} : api.ReachesRoot leaf passed last root →
      Ends api leaf passed last (.ok ⟨last :: passed, root⟩)
  | atRepeat : api.ComesBack leaf passed last →
      Ends api leaf passed last (.error (.inheritanceCycle last.name))
  | atGap : api.FindsNothing leaf passed last →
      Ends api leaf passed last (.error (.unsupportedBase leaf.name (missingBase last)))

variable {api : NativeApi} {leaf cls last : NativeClass} {passed longer : List NativeClass}
  {root : RootStruct} {outcome : Except Failure Ancestry}

namespace Trail

/-- Trails from one class agree as far as the shorter one goes, and the longer one goes on from
there. -/
theorem agree {furthest : NativeClass} (long : api.Trail leaf longer furthest)
    (short : api.Trail leaf passed cls) (bound : passed.length ≤ longer.length) :
    (longer = passed ∧ furthest = cls) ∨
      ((cls :: passed) <:+ longer ∧ RootStruct.ofAbiName? cls.parentAbiName = none ∧
        ∃ parent, api.parent? cls = some parent) := by
  induction long generalizing passed cls with
  | start =>
    cases short with
    | start => exact .inl ⟨rfl, rfl⟩
    | onward _ _ _ => simp at bound
  | @onward before current parent _ notRoot found ih =>
    -- The last step of the longer trail is beyond the shorter one, or both have come as far and
    -- each takes its last step from the same class.
    rcases Nat.lt_or_eq_of_le bound with shorter | level
    · have within : passed.length ≤ before.length := by
        rw [List.length_cons] at shorter
        omega
      rcases ih short within with ⟨rfl, rfl⟩ | ⟨inside, goesOn⟩
      · exact .inr ⟨List.suffix_refl _, notRoot, parent, found⟩
      · exact .inr ⟨inside.trans (List.suffix_cons _ _), goesOn⟩
    · cases short with
      | start => simp at level
      | @onward earlier other otherParent otherTrail _ otherFound =>
        have same : earlier.length = before.length := by simpa using level
        rcases ih otherTrail (Nat.le_of_eq same) with ⟨rfl, rfl⟩ | ⟨inside, _⟩
        · rw [found] at otherFound
          exact .inl ⟨rfl, Option.some.inj otherFound⟩
        · have fits := inside.length_le
          rw [List.length_cons] at fits
          omega

/-- Every class of a trail but the one it starts from is a class of the interface. -/
theorem mem_classes (trail : api.Trail leaf passed cls) : passed = [] ∨ cls ∈ api.classes := by
  cases trail with
  | start => exact .inl rfl
  | onward _ _ found => exact .inr (mem_of_parent? found)

/-- What a trail passes is taken from the classes that it has not visited yet, so that no trail
without a repeated name is longer than the list of classes and one more. -/
theorem length_add_unvisited_le (trail : api.Trail leaf passed cls)
    (distinct : (passed.map (·.abiName)).Nodup) :
    passed.length + (api.unvisited passed).length ≤ api.classes.length + 1 := by
  induction trail with
  | start =>
    have all : (api.unvisited []).length ≤ api.classes.length := List.length_filter_le _ _
    rw [List.length_nil]
    omega
  | @onward before current parent earlier _ _ ih =>
    rw [List.map_cons, List.nodup_cons] at distinct
    obtain ⟨fresh, distinct⟩ := distinct
    have counted := ih distinct
    rw [List.length_cons]
    rcases earlier.mem_classes with rfl | inside
    · -- the first class need not belong to the interface
      have fewer := api.length_unvisited_cons_le current []
      have all : (api.unvisited []).length ≤ api.classes.length := List.length_filter_le _ _
      rw [List.length_nil]
      omega
    · have fewer := length_unvisited_cons_lt inside fresh
      omega

theorem length_le (trail : api.Trail leaf passed cls)
    (distinct : (passed.map (·.abiName)).Nodup) : passed.length ≤ api.classes.length + 1 := by
  have counted := trail.length_add_unvisited_le distinct
  omega

/-- Each class of a trail is the parent of the one after it, and only the last class that is reached
may derive from a root. -/
theorem isChain (trail : api.Trail leaf passed cls) :
    (cls :: passed).IsChain (fun above below => api.parent? below = some above) := by
  induction trail with
  | start => exact .singleton _
  | onward _ _ found ih => exact .cons_cons found ih

theorem getLast?_eq (trail : api.Trail leaf passed cls) : (cls :: passed).getLast? = some leaf := by
  induction trail with
  | start => rfl
  | onward _ _ _ ih => rw [List.getLast?_cons_cons, ih]

theorem notRoot_of_mem (trail : api.Trail leaf passed cls) :
    ∀ below ∈ passed, RootStruct.ofAbiName? below.parentAbiName = none := by
  induction trail with
  | start => simp
  | onward _ notRoot _ ih => exact List.forall_mem_cons.mpr ⟨notRoot, ih⟩

/-- The walk follows a trail for as long as no struct name repeats. -/
theorem ancestry_eq (trail : api.Trail leaf passed cls)
    (distinct : (passed.map (·.abiName)).Nodup) : api.ancestry leaf = api.walk leaf passed cls := by
  induction trail with
  | start => rfl
  | onward _ notRoot found ih =>
    obtain ⟨fresh, distinct⟩ := List.nodup_cons.mp distinct
    rw [ih distinct, walk_of_parent fresh notRoot found]

/-- A trail without a repeated name can be followed until it ends. -/
theorem exists_ends (trail : api.Trail leaf passed cls)
    (distinct : (passed.map (·.abiName)).Nodup) :
    ∃ onward last outcome, api.Ends leaf onward last outcome := by
  induction passed, cls using walk.induct api with
  | case1 passed cls visited => exact ⟨passed, cls, _, .atRepeat ⟨trail, distinct, visited⟩⟩
  | case2 passed cls fresh root derives =>
    exact ⟨passed, cls, _, .atRoot ⟨trail, List.nodup_cons.mpr ⟨fresh, distinct⟩, derives⟩⟩
  | case3 passed cls fresh notRoot missing =>
    exact ⟨passed, cls, _, .atGap ⟨trail, List.nodup_cons.mpr ⟨fresh, distinct⟩, notRoot, missing⟩⟩
  | case4 passed cls fresh notRoot parent found ih =>
    exact ih (.onward trail notRoot found) (List.nodup_cons.mpr ⟨fresh, distinct⟩)

end Trail

namespace Ends

theorem trail (ends : api.Ends leaf passed last outcome) : api.Trail leaf passed last := by
  cases ends with
  | atRoot reaches => exact reaches.trail
  | atRepeat back => exact back.trail
  | atGap gap => exact gap.trail

theorem distinct (ends : api.Ends leaf passed last outcome) :
    (passed.map (·.abiName)).Nodup := by
  cases ends with
  | atRoot reaches => exact (List.nodup_cons.mp reaches.distinct).2
  | atRepeat back => exact back.distinct
  | atGap gap => exact (List.nodup_cons.mp gap.distinct).2

/-- Where a trail has ended there is no going on without a repeated name. -/
theorem not_onward (ends : api.Ends leaf passed last outcome)
    (inside : (last :: passed) <:+ longer) (distinct : (longer.map (·.abiName)).Nodup)
    (notRoot : RootStruct.ofAbiName? last.parentAbiName = none) : api.parent? last = none := by
  have fresh : ((last :: passed).map (·.abiName)).Nodup :=
    distinct.sublist (inside.sublist.map _)
  cases ends with
  | atRoot reaches =>
    rw [reaches.derives] at notRoot
    contradiction
  | atRepeat back =>
    exact absurd back.visited (List.nodup_cons.mp fresh).1
  | atGap gap => exact gap.missing

/-- At most one trail from a class ends. -/
theorem unique {furthest : NativeClass} {other : Except Failure Ancestry}
    (ends : api.Ends leaf passed last outcome) (too : api.Ends leaf longer furthest other)
    (bound : passed.length ≤ longer.length) : longer = passed ∧ furthest = last := by
  rcases too.trail.agree ends.trail bound with same | ⟨inside, notRoot, parent, found⟩
  · exact same
  · rw [ends.not_onward inside too.distinct notRoot] at found
    contradiction

/-- The ancestry is what the ending of the trail asks for. -/
theorem ancestry_eq (ends : api.Ends leaf passed last outcome) : api.ancestry leaf = outcome := by
  rw [ends.trail.ancestry_eq ends.distinct]
  cases ends with
  | atRoot reaches => exact walk_of_root (List.nodup_cons.mp reaches.distinct).1 reaches.derives
  | atRepeat back => exact walk_of_visited back.visited
  | atGap gap =>
    exact walk_of_missing (List.nodup_cons.mp gap.distinct).1 gap.notRoot gap.missing

end Ends

/-- An ancestry is the answer to the one ending of the trail from its class. -/
theorem ancestry_eq_iff :
    api.ancestry leaf = outcome ↔ ∃ passed last, api.Ends leaf passed last outcome := by
  constructor
  · rintro rfl
    obtain ⟨passed, last, outcome, ends⟩ := (@Trail.start api leaf).exists_ends List.nodup_nil
    rw [ends.ancestry_eq]
    exact ⟨passed, last, ends⟩
  · rintro ⟨passed, last, ends⟩
    exact ends.ancestry_eq

/-- What the chain of an ancestry looks like: pairwise different struct names, each class the parent
of the next, the class itself at the end, and only the first class next to a root. -/
structure Lineage (api : NativeApi) (leaf : NativeClass) (ancestry : Ancestry) : Prop where
  distinct : (ancestry.chain.map (·.abiName)).Nodup
  ends : ancestry.chain.getLast? = some leaf
  parents : ancestry.chain.IsChain fun above below => api.parent? below = some above
  root : ∃ top rest, ancestry.chain = top :: rest ∧
    RootStruct.ofAbiName? top.parentAbiName = some ancestry.root ∧
    ∀ below ∈ rest, RootStruct.ofAbiName? below.parentAbiName = none

theorem ReachesRoot.lineage (reaches : api.ReachesRoot leaf passed last root) :
    api.Lineage leaf ⟨last :: passed, root⟩ where
  distinct := reaches.distinct
  ends := reaches.trail.getLast?_eq
  parents := reaches.trail.isChain
  root := ⟨last, passed, rfl, reaches.derives, reaches.trail.notRoot_of_mem⟩

/-- The ways in which the walk from a class can end, and what it answers in each of them. -/
structure Classified (api : NativeApi) (leaf : NativeClass) : Prop where
  /-- No trail without a repeated struct name is longer. -/
  bounded : ∀ passed last, api.Trail leaf passed last → (passed.map (·.abiName)).Nodup →
    passed.length ≤ api.classes.length + 1
  /-- One trail ends. -/
  ends : ∃! trail : List NativeClass × NativeClass, ∃ outcome,
    api.Ends leaf trail.1 trail.2 outcome
  ok_iff : ∀ ancestry, api.ancestry leaf = .ok ancestry ↔
    ∃ passed last, api.ReachesRoot leaf passed last ancestry.root ∧
      ancestry.chain = last :: passed
  lineage : ∀ ancestry, api.ancestry leaf = .ok ancestry → api.Lineage leaf ancestry
  cycle_iff : ∀ name, api.ancestry leaf = .error (.inheritanceCycle name) ↔
    ∃ passed last, api.ComesBack leaf passed last ∧ last.name = name
  unsupported_iff : ∀ name base, api.ancestry leaf = .error (.unsupportedBase name base) ↔
    leaf.name = name ∧ ∃ passed last, api.FindsNothing leaf passed last ∧
      base = if last.parentAbiName = "" then last.parentName else last.parentAbiName
  failures : ∀ failure, api.ancestry leaf = .error failure →
    (∃ name, failure = .inheritanceCycle name) ∨
      ∃ name base, failure = .unsupportedBase name base

/-- The ancestry of every class of every interface, given by how the trail from it ends. -/
theorem ancestry_classified (api : NativeApi) (leaf : NativeClass) : api.Classified leaf where
  bounded _ _ trail distinct := trail.length_le distinct
  ends := by
    obtain ⟨passed, last, outcome, ends⟩ := (@Trail.start api leaf).exists_ends List.nodup_nil
    refine ⟨(passed, last), ⟨outcome, ends⟩, ?_⟩
    rintro ⟨longer, furthest⟩ ⟨other, too⟩
    rcases Nat.le_total passed.length longer.length with bound | bound
    · obtain ⟨rfl, rfl⟩ := ends.unique too bound
      rfl
    · obtain ⟨rfl, rfl⟩ := too.unique ends bound
      rfl
  ok_iff ancestry := by
    rw [ancestry_eq_iff]
    constructor
    · rintro ⟨passed, last, ends⟩
      cases ends with
      | atRoot reaches => exact ⟨passed, last, reaches, rfl⟩
    · rintro ⟨passed, last, reaches, same⟩
      obtain ⟨chain, root⟩ := ancestry
      subst same
      exact ⟨passed, last, .atRoot reaches⟩
  lineage ancestry walked := by
    obtain ⟨passed, last, ends⟩ := ancestry_eq_iff.mp walked
    cases ends with
    | atRoot reaches => exact reaches.lineage
  cycle_iff name := by
    rw [ancestry_eq_iff]
    constructor
    · rintro ⟨passed, last, ends⟩
      cases ends with
      | atRepeat back => exact ⟨passed, last, back, rfl⟩
    · rintro ⟨passed, last, back, rfl⟩
      exact ⟨passed, last, .atRepeat back⟩
  unsupported_iff name base := by
    rw [ancestry_eq_iff]
    constructor
    · rintro ⟨passed, last, ends⟩
      cases ends with
      | atGap gap => exact ⟨rfl, passed, last, gap, by simp [missingBase]⟩
    · rintro ⟨rfl, passed, last, gap, rfl⟩
      have answered := Ends.atGap gap
      simp only [missingBase, String.isEmpty_iff] at answered
      exact ⟨passed, last, answered⟩
  failures failure walked := by
    obtain ⟨passed, last, ends⟩ := ancestry_eq_iff.mp walked
    cases ends with
    | atRepeat => exact .inl ⟨_, rfl⟩
    | atGap => exact .inr ⟨_, _, rfl⟩

end Bindery.NativeApi
