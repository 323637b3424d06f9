import Mathlib.Data.List.Nodup
import Bindery.Proofs.Layout.Extension
import Bindery.Source.ProxyClass

/-! # Whose slots are whose

A function table is numbered from front to back: first the functions of the root, then, from the root
down to the class, what every class of the ancestry declares. As no struct name comes twice on the
way, the slots that bear the struct name of a class are the very ones that this class declares. Main
statement: the slots below the root are shared out among the classes of the ancestry, so that along
the wrappers of the ancestry each of them is forwarded exactly once (`layout_shared_out`).
-/

namespace Bindery

namespace Layout

variable {naming : Naming} {cls : NativeClass} {root : RootStruct} {front back : List NativeClass}

theorem length_methods (chain : List NativeClass) :
    (methods chain).length = (chain.flatMap (·.virtuals)).length := by
  simp only [methods, List.length_flatMap, List.length_map]

/-- A slot bears the struct name of the class that declares its function. -/
theorem exists_mem_of_mem_methodSlots {start : Nat} {chain : List NativeClass} {slot : Slot}
    (member : slot ∈ methodSlots naming start (methods chain)) :
    ∃ owner ∈ chain, slot.signature.interfaceName = owner.abiName := by
  obtain ⟨index, bound, rfl⟩ := List.mem_mapIdx.mp member
  have method := List.getElem_mem bound
  obtain ⟨owner, inside, declared⟩ := List.mem_flatMap.mp method
  obtain ⟨f, _, same⟩ := List.mem_map.mp declared
  refine ⟨owner, inside, ?_⟩
  rw [← same]
  rfl

/-- What a class declares stands behind the slots of the classes above it. -/
theorem declaredSlots_ofAncestry (fresh : cls.abiName ∉ front.map (·.abiName)) :
    (ofAncestry naming cls ⟨front ++ [cls], root⟩).declaredSlots =
      methodSlots naming (root.capabilities.length + (methods front).length) (methods [cls]) := by
  have above : ∀ slot ∈ methodSlots naming root.capabilities.length (methods front),
      ¬decide (slot.signature.interfaceName = cls.abiName) = true := by
    intro slot member
    obtain ⟨owner, inside, same⟩ := exists_mem_of_mem_methodSlots member
    rw [decide_eq_true_iff, same]
    intro again
    exact fresh (List.mem_map.mpr ⟨owner, inside, again⟩)
  have own : ∀ slot ∈ methodSlots naming (root.capabilities.length + (methods front).length)
      (methods [cls]), decide (slot.signature.interfaceName = cls.abiName) = true := by
    intro slot member
    obtain ⟨owner, inside, same⟩ := exists_mem_of_mem_methodSlots member
    rw [decide_eq_true_iff, same, List.mem_singleton.mp inside]
  rw [declaredSlots, ownSlots_ofAncestry, methods_append, methodSlots_append,
    List.filter_append]
  exact (congrArg₂ (· ++ ·) (List.filter_eq_nil_iff.mpr above) (List.filter_eq_self.mpr own)).trans
    (List.nil_append _)

/-- No two slots of a table are the same. -/
theorem nodup_slots_ofAncestry (ancestry : Ancestry) :
    (ofAncestry naming cls ancestry).slots.Nodup := by
  apply List.nodup_iff_getElem?_ne_getElem?.mpr
  intro i j before bound same
  have found : (ofAncestry naming cls ancestry).slots[j]? =
      some (ofAncestry naming cls ancestry).slots[j] := List.getElem?_eq_getElem bound
  have first := index_of_ofAncestry naming cls (same.trans found)
  have second := index_of_ofAncestry naming cls found
  omega

end Layout

/-! ## What a wrapper forwards -/

namespace ProxyClass

/-- The heading of the public member for a slot: what it returns to managed code, its name, and its
parameters without the object itself. -/
def memberHeading (wrapper interface : String) (sig : Signature) : String :=
  s!"public {publicReturn sig wrapper interface} {sig.name}({sig.instanceParameterList})"

/-- The call of the flat struct's function for a slot, with the native object first. -/
def memberCall (names : MemberNames) (interface self : String) (sig : Signature) : String :=
  let arguments := Text.joined ", " (self :: sig.instanceArguments)
  s!"{interface}.{names (.function sig.targetName)}({arguments})"

/-- The member of a wrapper for a slot, with its comment. -/
def slotMember (names : MemberNames) (ctx : Context) (cls : NativeClass) (layout : Layout)
    (slot : Slot) : Code :=
  .blank :: Code.documentation slot.signature.comment ++
    instanceForwarder names (ctx.wrapperName cls) layout.abiName (selfExpression layout)
      slot.signature

/-- The member for a slot makes the call of the slot's function and passes the result on. -/
theorem slotMember_eq (names : MemberNames) (ctx : Context) (cls : NativeClass) (layout : Layout)
    (slot : Slot) : slotMember names ctx cls layout slot =
      .blank :: Code.documentation slot.signature.comment ++
        Code.block (memberHeading (ctx.wrapperName cls) layout.abiName slot.signature)
          [callStatement slot.signature (ctx.wrapperName cls) layout.abiName
            (memberCall names layout.abiName (selfExpression layout) slot.signature)] := rfl

/-- A wrapper has a member for each slot that its class declares, in order, and is otherwise what it
would be without slots. -/
theorem body_eq_append (names : MemberNames) (ctx : Context) (cls : NativeClass)
    (layout : Layout) :
    body names ctx cls layout = body names ctx cls { layout with slots := [] } ++
      layout.declaredSlots.flatMap (slotMember names ctx cls layout) := by
  have none : ({ layout with slots := [] } : Layout).declaredSlots = [] := rfl
  simp only [body, Code.concat, List.flatten_cons, List.flatten_nil, List.append_nil, none,
    List.flatMap_nil, List.append_assoc]
  rfl

end ProxyClass

/-! ## Sharing out -/

/-- In a list without repetition that is put together from parts, each item is in exactly one
part. -/
theorem existsUnique_part {α β : Type} {parts : List α} {part : α → List β} {item : β}
    (distinct : (parts.flatMap part).Nodup) (member : item ∈ parts.flatMap part) :
    ∃! index : Nat, ∃ owner, parts[index]? = some owner ∧ item ∈ part owner := by
  obtain ⟨owner, inside, here⟩ := List.mem_flatMap.mp member
  obtain ⟨index, bound, rfl⟩ := List.getElem_of_mem inside
  refine ⟨index, ⟨_, List.getElem?_eq_getElem bound, here⟩, ?_⟩
  rintro other ⟨_, found, there⟩
  obtain ⟨within, rfl⟩ := List.getElem?_eq_some_iff.mp found
  have apart := List.pairwise_iff_getElem.mp (List.nodup_flatMap.mp distinct).2
  rcases Nat.lt_trichotomy other index with before | same | after
  · exact absurd here (apart other index within bound before there)
  · exact same
  · exact absurd there (apart index other bound within after here)

namespace NativeApi

variable {api : NativeApi} {naming : Naming} {cls : NativeClass} {root : RootStruct}
  {chain front back : List NativeClass}

/-- An ascent to a class passes through the ascents to the classes above it. -/
theorem Ascent.of_append {ancestor : NativeClass} (ascent : api.Ascent cls chain root)
    (split : chain = front ++ ancestor :: back) :
    api.Ascent ancestor (front ++ [ancestor]) root := by
  induction ascent generalizing back with
  | root found =>
    obtain ⟨rfl, same⟩ | ⟨_, empty⟩ := List.singleton_eq_append_iff.mp split
    · obtain ⟨rfl, rfl⟩ := List.cons.inj same
      exact .root found
    · contradiction
  | @parent cls parent above root notRoot found higher ih =>
    rcases List.eq_nil_or_concat back with rfl | ⟨lower, last, rfl⟩
    · obtain ⟨rfl, same⟩ := List.append_inj' split rfl
      obtain rfl := List.singleton_inj.mp same
      exact .parent notRoot found higher
    · rw [List.concat_eq_append, ← List.cons_append, ← List.append_assoc] at split
      exact ih (List.append_inj' split rfl).1

/-- Every class of an ancestry has the ancestry that ends with it. -/
theorem ancestry_of_append {ancestor : NativeClass}
    (walked : api.ancestry cls = .ok ⟨front ++ ancestor :: back, root⟩) :
    api.ancestry ancestor = .ok ⟨front ++ [ancestor], root⟩ := by
  obtain ⟨ascent, distinct⟩ := ancestry_eq_ok_iff.mp walked
  apply ancestry_eq_ok_iff.mpr
  refine ⟨ascent.of_append rfl, distinct.sublist ?_⟩
  exact (List.Sublist.append_left (by simp) front).map _

/-- The lower classes of an ancestry have layouts, which share out the slots that these classes add
to those above them. -/
theorem exists_layouts (walked : api.ancestry cls = .ok ⟨front ++ back, root⟩) :
    ∃ layouts, back.mapM (api.layout naming) = .ok layouts ∧
      layouts.map (fun layout => layout.declaredSlots.length) =
        back.map (fun ancestor => ancestor.virtuals.length) ∧
      layouts.flatMap Layout.declaredSlots = Layout.methodSlots naming
        (root.capabilities.length + (Layout.methods front).length) (Layout.methods back) := by
  induction back generalizing front with
  | nil => exact ⟨[], rfl, rfl, rfl⟩
  | cons ancestor lower ih =>
    have higher := ancestry_of_append walked
    have built : api.layout naming ancestor =
        .ok (Layout.ofAncestry naming ancestor ⟨front ++ [ancestor], root⟩) :=
      layout_eq_ok_iff.mpr ⟨_, higher, rfl⟩
    have fresh : ancestor.abiName ∉ front.map (·.abiName) := by
      have distinct := (ancestry_eq_ok_iff.mp higher).2
      rw [List.map_append, List.nodup_append] at distinct
      intro above
      exact distinct.2.2 _ above _ (List.mem_singleton_self _) rfl
    have further : api.ancestry cls = .ok ⟨(front ++ [ancestor]) ++ lower, root⟩ := by
      simpa using walked
    obtain ⟨layouts, mapped, sizes, slots⟩ := ih further
    have declared : (Layout.ofAncestry naming ancestor ⟨front ++ [ancestor], root⟩).declaredSlots =
        _ := Layout.declaredSlots_ofAncestry fresh
    refine ⟨Layout.ofAncestry naming ancestor ⟨front ++ [ancestor], root⟩ :: layouts, ?_, ?_, ?_⟩
    · rw [List.mapM_cons, built, mapped]
      rfl
    · rw [List.map_cons, sizes, declared]
      simp [Layout.methodSlots, Layout.methods]
    · have together : Layout.methods (ancestor :: lower) =
          Layout.methods [ancestor] ++ Layout.methods lower :=
        Layout.methods_append [ancestor] lower
      rw [List.flatMap_cons, slots, declared, together, Layout.methods_append, List.length_append,
        ← Nat.add_assoc, Layout.methodSlots_append]

/-- The function table of a class in order, and shared out among the layouts of the classes of its
ancestry. -/
structure SharedOut (api : NativeApi) (naming : Naming) (cls : NativeClass) (layout : Layout)
    (ancestry : Ancestry) (layouts : List Layout) : Prop where
  walked : api.ancestry cls = .ok ancestry
  built : ancestry.chain.mapM (api.layout naming) = .ok layouts
  chain : layout.chain = ancestry.chain.map (·.abiName)
  numbered : ∀ (index : Nat) (slot : Slot), layout.slots[index]? = some slot →
    slot.index = index ∧ slot.signature.slot = index
  /-- The functions of the root come first, and are not found further back. -/
  rooted : layout.root = ancestry.root ∧
    layout.rootSlots = layout.slots.take ancestry.root.capabilities.length ∧
    layout.rootSlots = ancestry.root.capabilities.mapIdx fun index capability =>
      ⟨index, Naming.baseCapability cls capability index⟩
  size : layout.slots.length = ancestry.root.capabilities.length +
    (ancestry.chain.flatMap (·.virtuals)).length
  own : layout.ownSlots = layouts.flatMap Layout.declaredSlots
  declared : layouts.map (fun inherited => inherited.declaredSlots.length) =
    ancestry.chain.map fun ancestor => ancestor.virtuals.length
  /-- A wrapper of the ancestry has a public member for each slot that its class declares, which
  calls the flat struct's function for this slot and passes the result on. Otherwise the wrapper is
  as if there were no slots. -/
  forwarded : ∀ names ctx ancestor, ∀ inherited ∈ layouts,
    ProxyClass.body names ctx ancestor inherited =
      ProxyClass.body names ctx ancestor { inherited with slots := [] } ++
        inherited.declaredSlots.flatMap fun slot =>
          let sig := slot.signature
          let wrapper := ctx.wrapperName ancestor
          let self := ProxyClass.selfExpression inherited
          .blank :: Code.documentation sig.comment ++
            Code.block (ProxyClass.memberHeading wrapper inherited.abiName sig)
              [ProxyClass.callStatement sig wrapper inherited.abiName
                (ProxyClass.memberCall names inherited.abiName self sig)]
  /-- That makes one wrapper for each slot below the root. -/
  once : ∀ slot ∈ layout.ownSlots,
    ∃! index : Nat, ∃ inherited, layouts[index]? = some inherited ∧ slot ∈ inherited.declaredSlots

/-- The function table of a class is numbered from the root down, and along the wrappers of its
ancestry each slot below the root is forwarded exactly once. -/
theorem layout_shared_out {layout : Layout} (built : api.layout naming cls = .ok layout) :
    ∃ ancestry layouts, SharedOut api naming cls layout ancestry layouts := by
  obtain ⟨⟨chain, root⟩, walked, rfl⟩ := layout_eq_ok_iff.mp built
  have whole : api.ancestry cls = .ok ⟨[] ++ chain, root⟩ := walked
  obtain ⟨layouts, mapped, sizes, slots⟩ := exists_layouts whole
  have own : (Layout.ofAncestry naming cls ⟨chain, root⟩).ownSlots =
      layouts.flatMap Layout.declaredSlots := by
    rw [slots, Layout.ownSlots_ofAncestry]
    rfl
  refine ⟨⟨chain, root⟩, layouts, ?_⟩
  constructor
  case walked => exact walked
  case built => exact mapped
  case chain => rfl
  case numbered =>
    intro index slot found
    exact ⟨Layout.index_of_ofAncestry naming cls found, Layout.slot_signature_of_ofAncestry found⟩
  case rooted =>
    refine ⟨rfl, ?_, ?_⟩
    · rw [Layout.slots_eq_append, Layout.rootSlots_ofAncestry, List.take_left' (by simp)]
    · rw [Layout.rootSlots_ofAncestry, Layout.baseSlots]
  case size => rw [Layout.length_slots_ofAncestry, Layout.length_methods]
  case own => exact own
  case declared => exact sizes
  case forwarded =>
    intro names ctx ancestor inherited _
    simp only [ProxyClass.body_eq_append names ctx ancestor inherited, ← ProxyClass.slotMember_eq]
  case once =>
    intro slot member
    have distinct : (Layout.ofAncestry naming cls ⟨chain, root⟩).ownSlots.Nodup :=
      (Layout.nodup_slots_ofAncestry _).sublist List.filter_sublist
    rw [own] at distinct
    rw [own] at member
    exact existsUnique_part distinct member

/-- An interface in which a class and its parent declare functions of one name. -/
def homonyms : NativeApi where
  classes := [
    { NativeClass.bare "Dialog" "dialog_t" "Window" "window_t" with
      virtuals := [
        ⟨"Close", "close", "void", [], false, []⟩, ⟨"Show", "show", "int", [], false, []⟩] },
    { NativeClass.bare "Window" "window_t" "Base" "cef_base_ref_counted_t" with
      virtuals := [⟨"Close", "close", "void", [], false, []⟩] }]
  functions := []

theorem layout_shared_out_homonyms : ∃ layout,
    homonyms.layout default homonyms.classes[0]! = .ok layout ∧
      layout.ownSlots.map (·.signature.name) = ["Close", "Close", "Show"] ∧
      ∃ ancestry layouts,
        SharedOut homonyms default homonyms.classes[0]! layout ancestry layouts := by
  have walked : homonyms.ancestry homonyms.classes[0]! =
      .ok ⟨homonyms.classes.reverse, .refCounted⟩ := by
    cbv
  have built : homonyms.layout default homonyms.classes[0]! = .ok _ :=
    layout_eq_ok_iff.mpr ⟨_, walked, rfl⟩
  exact ⟨_, built, by rw [Layout.ownSlots_ofAncestry]; rfl,
    layout_shared_out built⟩

end NativeApi

end Bindery
