import Bindery.Layout
import Bindery.Proofs.Ancestry.Ascent

/-! # Layouts of derived classes

The function table of a derived class begins with that of its parent: slot by slot the same, but for
the functions of the root, which are called through the derived class. After it come the functions
that the class declares itself. Main statements: a slot stands at its own index
(`index_of_ofAncestry`), and the layout of every class whose parent is not a root extends that of
the parent (`layout_extends_parent`).
-/

namespace Bindery

/-- A slot of a parent as it stands in the table of a derived class. -/
def Slot.inherited (cls : NativeClass) (slot : Slot) : Slot :=
  if slot.isBaseCapability then
    { slot with signature := { slot.signature with
        interfaceName := cls.abiName, parameters := [Naming.selfParameter cls] } }
  else slot

theorem Slot.inherited_of_method {slot : Slot} (cls : NativeClass)
    (method : slot.isBaseCapability = false) : slot.inherited cls = slot := by
  rw [inherited, method, if_neg Bool.false_ne_true]

namespace Layout

variable (naming : Naming) (cls parent : NativeClass) (root : RootStruct)

/-! ## The two parts of a table -/

@[simp] theorem length_baseSlots : (baseSlots cls root).length = root.capabilities.length := by
  simp [baseSlots]

theorem inherited_baseSlots :
    (baseSlots parent root).map (Slot.inherited cls) = baseSlots cls root := by
  cases root <;> rfl

theorem isBaseCapability_of_mem_methodSlots {start : Nat}
    {methods : List (NativeClass × NativeFunction)} {slot : Slot}
    (member : slot ∈ methodSlots naming start methods) : slot.isBaseCapability = false := by
  obtain ⟨index, _, rfl⟩ := List.mem_mapIdx.mp member
  rfl

theorem inherited_methodSlots (start : Nat) (methods : List (NativeClass × NativeFunction)) :
    (methodSlots naming start methods).map (Slot.inherited cls) =
      methodSlots naming start methods := by
  refine (List.map_congr_left fun slot member => ?_).trans (List.map_id' _)
  exact Slot.inherited_of_method cls (isBaseCapability_of_mem_methodSlots naming member)

theorem methodSlots_append (start : Nat) (first second : List (NativeClass × NativeFunction)) :
    methodSlots naming start (first ++ second) =
      methodSlots naming start first ++ methodSlots naming (start + first.length) second := by
  simp only [methodSlots, List.mapIdx_append, Nat.add_left_comm, Nat.add_comm]

theorem methods_append (above below : List NativeClass) :
    methods (above ++ below) = methods above ++ methods below := by
  simp only [methods, List.flatMap_append]

theorem methods_singleton : methods [cls] = cls.virtuals.map fun f => (cls, f) := by
  simp [methods]

/-! ## Whole tables -/

theorem length_slots_ofAncestry (ancestry : Ancestry) :
    (ofAncestry naming cls ancestry).slots.length =
      ancestry.root.capabilities.length + (methods ancestry.chain).length := by
  simp [ofAncestry, methodSlots]

/-- The index of a slot is its place in the table. -/
theorem index_of_ofAncestry {ancestry : Ancestry} {index : Nat} {slot : Slot}
    (found : (ofAncestry naming cls ancestry).slots[index]? = some slot) : slot.index = index := by
  simp only [ofAncestry, List.getElem?_append, length_baseSlots] at found
  split at found
  · simp only [baseSlots, List.getElem?_mapIdx, Option.map_eq_some_iff] at found
    obtain ⟨capability, _, rfl⟩ := found
    rfl
  · simp only [methodSlots, List.getElem?_mapIdx, Option.map_eq_some_iff] at found
    obtain ⟨method, _, rfl⟩ := found
    simp only
    omega

/-- A class puts its own functions after the slots of its parent. -/
theorem slots_ofAncestry_concat (above : List NativeClass) :
    (ofAncestry naming cls ⟨above ++ [cls], root⟩).slots =
      (ofAncestry naming parent ⟨above, root⟩).slots.map (Slot.inherited cls) ++
        methodSlots naming (ofAncestry naming parent ⟨above, root⟩).slots.length
          (cls.virtuals.map fun f => (cls, f)) := by
  rw [length_slots_ofAncestry]
  simp only [ofAncestry, List.map_append, inherited_baseSlots, inherited_methodSlots,
    methods_append, methods_singleton, methodSlots_append, List.append_assoc]

/-- A table extends another by the functions that a class declares. The slots of the root agree but
for the class that they are seen through. -/
structure Extends (derived inherited : Layout) : Prop where
  root : derived.root = inherited.root
  chain : derived.chain = inherited.chain ++ [cls.abiName]
  methods : ∀ (index : Nat) (slot : Slot), inherited.slots[index]? = some slot →
    slot.isBaseCapability = false → slot.index = index ∧ derived.slots[index]? = some slot
  capabilities : ∀ (index : Nat) (slot : Slot), inherited.slots[index]? = some slot →
    slot.isBaseCapability = true → ∃ own, derived.slots[index]? = some own ∧
      own.isBaseCapability = true ∧ own.index = slot.index ∧
      own.signature.fieldName = slot.signature.fieldName ∧
      own.signature.delegateType = slot.signature.delegateType ∧
      own.signature.targetReturn = slot.signature.targetReturn ∧
      own = { slot with signature := { slot.signature with
        interfaceName := cls.abiName, parameters := [Naming.selfParameter cls] } }
  added : derived.slots.drop inherited.slots.length = cls.virtuals.mapIdx fun offset f =>
    ⟨inherited.slots.length + offset,
      naming.virtualMethod f cls (inherited.slots.length + offset)⟩

theorem extends_ofAncestry (above : List NativeClass) :
    Extends naming cls (ofAncestry naming cls ⟨above ++ [cls], root⟩)
      (ofAncestry naming parent ⟨above, root⟩) := by
  have slots := slots_ofAncestry_concat naming cls parent root above
  have place : ∀ (index : Nat) (slot : Slot),
      (ofAncestry naming parent ⟨above, root⟩).slots[index]? = some slot →
      (ofAncestry naming cls ⟨above ++ [cls], root⟩).slots[index]? =
        some (slot.inherited cls) := by
    intro index slot found
    have bound := (List.getElem?_eq_some_iff.mp found).1
    rw [slots, List.getElem?_append_left (by simpa using bound), List.getElem?_map, found]
    rfl
  refine ⟨rfl, by simp [ofAncestry], ?_, ?_, ?_⟩
  · intro index slot found method
    have there := place index slot found
    rw [Slot.inherited_of_method cls method] at there
    exact ⟨index_of_ofAncestry naming parent found, there⟩
  · intro index slot found base
    refine ⟨_, place index slot found, ?_⟩
    rw [Slot.inherited, if_pos base]
    exact ⟨base, rfl, rfl, rfl, rfl, rfl⟩
  · rw [slots, List.drop_append_of_le_length (by simp), List.drop_eq_nil_of_le (by simp)]
    exact List.ext_getElem? fun offset => by simp [methodSlots, Function.comp_def]

/-! ## The slots of the root, and those below it -/

variable {naming cls root} {ancestry : Ancestry}

theorem isBaseCapability_of_mem_baseSlots {slot : Slot} (member : slot ∈ baseSlots cls root) :
    slot.isBaseCapability = true := by
  obtain ⟨index, _, rfl⟩ := List.mem_mapIdx.mp member
  rfl

/-- All slots of the root are slots that are seen through the class. -/
theorem rootSlots_ofAncestry :
    (ofAncestry naming cls ancestry).rootSlots = baseSlots cls ancestry.root := by
  have below : ∀ slot ∈ methodSlots naming ancestry.root.capabilities.length
      (methods ancestry.chain), ¬slot.isBaseCapability = true := fun slot member => by
    simp [isBaseCapability_of_mem_methodSlots naming member]
  rw [rootSlots, ofAncestry, List.filter_append, List.filter_eq_nil_iff.mpr below,
    List.filter_eq_self.mpr fun slot => isBaseCapability_of_mem_baseSlots, List.append_nil]

theorem ownSlots_ofAncestry : (ofAncestry naming cls ancestry).ownSlots =
    methodSlots naming ancestry.root.capabilities.length (methods ancestry.chain) := by
  have below : ∀ slot ∈ methodSlots naming ancestry.root.capabilities.length
      (methods ancestry.chain), (!slot.isBaseCapability) = true := fun slot member => by
    simp [isBaseCapability_of_mem_methodSlots naming member]
  have ofRoot : ∀ slot ∈ baseSlots cls ancestry.root, ¬(!slot.isBaseCapability) = true :=
    fun slot member => by simp [isBaseCapability_of_mem_baseSlots member]
  rw [ownSlots, ofAncestry, List.filter_append, List.filter_eq_nil_iff.mpr ofRoot,
    List.filter_eq_self.mpr below, List.nil_append]

/-- The slots of the root come first. -/
theorem slots_eq_append : (ofAncestry naming cls ancestry).slots =
    (ofAncestry naming cls ancestry).rootSlots ++ (ofAncestry naming cls ancestry).ownSlots := by
  rw [rootSlots_ofAncestry, ownSlots_ofAncestry, ofAncestry]

/-- The signature in a slot knows its place. -/
theorem slot_signature_of_ofAncestry {index : Nat} {slot : Slot}
    (found : (ofAncestry naming cls ancestry).slots[index]? = some slot) :
    slot.signature.slot = index := by
  have place := index_of_ofAncestry naming cls found
  have member := List.mem_of_getElem? found
  rw [ofAncestry, List.mem_append] at member
  rcases member with base | method
  · obtain ⟨_, _, rfl⟩ := List.mem_mapIdx.mp base
    exact place
  · obtain ⟨_, _, rfl⟩ := List.mem_mapIdx.mp method
    exact place

end Layout

namespace NativeApi

theorem layout_eq_ok_iff {api : NativeApi} {naming : Naming} {cls : NativeClass}
    {layout : Layout} : api.layout naming cls = .ok layout ↔
      ∃ ancestry, api.ancestry cls = .ok ancestry ∧
        Layout.ofAncestry naming cls ancestry = layout := by
  rw [NativeApi.layout]
  cases api.ancestry cls with
  | error failure => simp [Except.map]
  | ok ancestry => simp [Except.map]

/-- The statics of a layout are those of its class. -/
theorem statics_of_layout {api : NativeApi} {naming : Naming} {cls : NativeClass} {layout : Layout}
    (laid : api.layout naming cls = .ok layout) : layout.statics = naming.classStatics cls := by
  obtain ⟨_, _, rfl⟩ := layout_eq_ok_iff.mp laid
  rfl

/-- A class whose parent is not a root has the layout of its parent, extended by its own
functions. -/
theorem layout_extends_parent {api : NativeApi} {cls : NativeClass} {ancestry : Ancestry}
    (naming : Naming) (walked : api.ancestry cls = .ok ancestry)
    (long : 2 ≤ ancestry.chain.length) :
    ∃ parent derived inherited, api.parent? cls = some parent ∧
      ancestry.chain.dropLast.getLast? = some parent ∧
      api.layout naming cls = .ok derived ∧ api.layout naming parent = .ok inherited ∧
      derived.Extends naming cls inherited := by
  obtain ⟨parent, above, found, same, last, higher⟩ := ancestry_parent walked long
  obtain ⟨chain, root⟩ := ancestry
  obtain rfl : chain = above ++ [cls] := same
  refine ⟨parent, _, _, found, ?_, ?_, ?_, Layout.extends_ofAncestry naming cls parent root above⟩
  · rw [List.dropLast_concat, last]
  · rw [layout, walked]
    rfl
  · rw [layout, higher]
    rfl

/-- An interface in which one class knows its parent by struct name and that one knows its own by
logical name. -/
def twoLevels : NativeApi where
  classes := [
    { NativeClass.bare "Leaf" "leaf_t" "Gone" "middle_t" with
      virtuals := [⟨"Close", "close", "void", [], false, []⟩] },
    { NativeClass.bare "Middle" "middle_t" "Top" "gone_t" with
      virtuals := [⟨"Resize", "resize", "int", [⟨"int", "width"⟩], false, []⟩] },
    .bare "Top" "top_t" "Base" "cef_base_scoped_t"]
  functions := []

theorem layout_extends_parent_twoLevels :
    twoLevels.ancestry twoLevels.classes[0]! = .ok ⟨twoLevels.classes.reverse, .scoped⟩ ∧
      2 ≤ twoLevels.classes.reverse.length ∧
      ∃ parent derived inherited, twoLevels.parent? twoLevels.classes[0]! = some parent ∧
        twoLevels.classes.reverse.dropLast.getLast? = some parent ∧
        twoLevels.layout default twoLevels.classes[0]! = .ok derived ∧
        twoLevels.layout default parent = .ok inherited ∧
        derived.Extends default twoLevels.classes[0]! inherited := by
  have walked :
      twoLevels.ancestry twoLevels.classes[0]! = .ok ⟨twoLevels.classes.reverse, .scoped⟩ := by
    cbv
  exact ⟨walked, by decide, layout_extends_parent default walked (by decide)⟩

end NativeApi

end Bindery
