import Bindery.Proofs.Layout.Extension
import Bindery.Proofs.Source.Lines

/-! # Files that follow a layout

The binary contract of a class is read off three loops over its slots: the fields of the flat
struct, the delegate fields of the handler, and the statements of the handler's constructor. Main
statement: for every class with a layout, whatever its names and the context, the fields of the
struct are the root's struct and then the slots below the root in order, and the constructor makes
one delegate and sets one field for each slot in order, the delegate in a field of its own
(`wired_of_layout`). Where names stay on one line each, the rows that this is read off are the lines
of the files.
-/

namespace Bindery

/-! ## Slots of a layout -/

namespace Layout

variable {naming : Naming} {cls : NativeClass} {ancestry : Ancestry}

/-- The slots of a layout keep their delegates in different fields. -/
theorem nodup_delegateSlots :
    ((ofAncestry naming cls ancestry).slots.map (·.signature.delegateSlot)).Nodup := by
  rw [List.Nodup, List.pairwise_map, List.pairwise_iff_getElem]
  intro first second inside insideToo before same
  have firstPlace := slot_signature_of_ofAncestry (List.getElem?_eq_getElem inside)
  have secondPlace := slot_signature_of_ofAncestry (List.getElem?_eq_getElem insideToo)
  have equal := Signature.slot_eq_of_delegateSlot_eq same
  omega

end Layout

/-! ## Reading fields and constructors -/

/-- The rows of a struct's file that declare the fields of its objects. -/
def FlatStruct.fieldRows (rows : List String) : List String :=
  rows.filter (Code.standsAt 2 declaresInstanceField)

/-- The field that a row of a struct declares as an address. -/
def addressField? (text : String) : Option (List Char) :=
  (Text.after? "        internal IntPtr ".toList text.toList).bind (Text.before? [';'])

/-- The field of the flat struct that a row of a constructor sets, which is what stands in front of
the last sign of equality. -/
def assignedField? (text : String) : Option (List Char) :=
  (Text.after? "            _self->".toList text.toList).map fun assignment =>
    ((assignment.reverse.dropWhile (· ≠ '=')).drop 2).reverse

theorem addressField?_row (name : String) :
    addressField? (Code.row 2 s!"internal IntPtr {name};") = some name.toList := by
  have text : (Code.row 2 s!"internal IntPtr {name};").toList =
      "        internal IntPtr ".toList ++ (name.toList ++ [';']) := by
    rw [Code.toList_row (by simp [toString])]
    simp [toString, List.replicate]
  rw [addressField?, Text.after?_eq_some_iff.mpr text]
  exact before?_concat name.toList

theorem addressField?_root (root : RootStruct) :
    addressField? (Code.row 2 s!"internal {root.abiName} _base;") = none := by
  cases root <;> decide

namespace HandlerClass

variable {layout : Layout}

theorem assignedField?_constructionRow (sig : Signature) :
    assignedField? (constructionRow layout sig) = none := by
  rw [assignedField?, constructionRow, Code.toList_row (by simp [toString])]
  simp [toString, List.replicate, Signature.toList_delegateSlot, Text.after?]

theorem assignedField?_storeRow (sig : Signature) :
    assignedField? (storeRow sig) = some sig.fieldName.toList := by
  let stored := (s!" Marshal.GetFunctionPointerForDelegate({sig.delegateSlot});").toList
  have text : (storeRow sig).toList =
      "            _self->".toList ++ (sig.fieldName.toList ++ ' ' :: '=' :: stored) := by
    rw [storeRow, Code.toList_row (by simp [toString])]
    simp [stored, toString, List.replicate]
  have noEquals : ∀ c ∈ stored.reverse, decide (c ≠ '=') = true := by
    have inSlot := sig.not_mem_delegateSlot (c := '=') (by decide) (by decide)
    have inStored : '=' ∉ stored := by
      simp [stored, toString, inSlot]
    intro c member
    refine decide_eq_true ?_
    rintro rfl
    exact inStored (List.mem_reverse.mp member)
  rw [assignedField?, Text.after?_eq_some_iff.mpr text, Option.map_some, List.reverse_append,
    List.reverse_cons, List.reverse_cons, List.append_assoc, List.append_assoc,
    List.dropWhile_append_of_pos noEquals]
  simp

end HandlerClass

/-- The rows of a handler's constructor. -/
def Wrapper.constructorRows (ctx : Context) (cls : NativeClass) (rows : List String) :
    List String :=
  Code.bodyOf 2 s!"protected {ctx.wrapperName cls}()" rows

/-- The rows of a constructor that make delegates and set fields. -/
def Wrapper.fillingRows (rows : List String) : List String :=
  rows.filter (Code.standsAt 3 fillsSlot)

/-- The constructor sets the field of each slot, in slot order. -/
theorem HandlerClass.assignedFields_constructorBody {layout : Layout} :
    (Code.rows 3 (constructorBody FlatMember.name layout)).filterMap assignedField? =
      layout.slots.map fun slot => slot.signature.fieldName.toList := by
  have allocated : assignedField?
      (Code.row 3 s!"_self = {layout.abiName}.{FlatMember.name .alloc}();") = none := by
    rw [assignedField?, Code.toList_row (by simp [toString])]
    simp [toString, List.replicate, Text.after?]
  have blank : assignedField? "" = none := rfl
  have rooted : assignedField? rootingRow = none := by decide
  have last : (if layout.root = .scoped then ["", rootingRow] else []).filterMap assignedField? =
      [] := by
    split
    · rw [List.filterMap_cons_none blank, List.filterMap_cons_none rooted, List.filterMap_nil]
    · rfl
  rw [rows_constructorBody, List.filterMap_append, List.filterMap_append, last,
    List.filterMap_cons_none allocated, List.filterMap_cons_none blank, List.filterMap_nil,
    List.nil_append, List.append_nil, List.filterMap_flatMap]
  simp only [List.filterMap_cons, assignedField?_constructionRow, assignedField?_storeRow,
    List.filterMap_nil, List.map_eq_flatMap]

/-- The struct declares an address for each slot below the root, in slot order. -/
theorem addressFields {layout : Layout} :
    (Code.row 2 s!"internal {layout.root.abiName} _base;" :: layout.ownSlots.map fun slot =>
      Code.row 2 s!"internal IntPtr {slot.signature.fieldName};").filterMap addressField? =
        layout.ownSlots.map fun slot => slot.signature.fieldName.toList := by
  rw [List.filterMap_cons_none (addressField?_root layout.root), List.filterMap_map]
  refine List.filterMap_eq_map_iff_forall_eq_some.mpr fun slot _ => ?_
  exact addressField?_row slot.signature.fieldName

/-- How the file of a flat struct and the code of a handler follow the slots of a layout. -/
structure Wired (ctx : Context) (cls : NativeClass) (layout : Layout)
    (structRows handlerRows : List String) : Prop where
  /-- The slots of the root come first. -/
  parts : layout.slots = layout.rootSlots ++ layout.ownSlots
  numbered : ∀ (index : Nat) (slot : Slot), layout.slots[index]? = some slot →
    slot.index = index ∧
      slot.signature.delegateSlot = s!"_ds{String.ofList (Nat.toDigits 16 index)}"
  distinct : (layout.slots.map (·.signature.delegateSlot)).Nodup
  fields : FlatStruct.fieldRows structRows =
    Code.row 2 s!"internal {layout.root.abiName} _base;" ::
      layout.ownSlots.map fun slot => Code.row 2 s!"internal IntPtr {slot.signature.fieldName};"
  /-- The constructor as a whole. -/
  built : Wrapper.constructorRows ctx cls handlerRows =
    [Code.row 3 s!"_self = {layout.abiName}.{FlatMember.name .alloc}();", ""] ++
      (layout.slots.flatMap fun slot => [
        HandlerClass.constructionRow layout slot.signature,
        HandlerClass.storeRow slot.signature]) ++
      (if layout.root = .scoped then ["", HandlerClass.rootingRow] else [])
  /-- Of its statements only those for the slots make delegates and set fields. -/
  filled : Wrapper.fillingRows (Wrapper.constructorRows ctx cls handlerRows) =
    layout.slots.flatMap fun slot => [
      HandlerClass.constructionRow layout slot.signature, HandlerClass.storeRow slot.signature]
  /-- Each delegate field is declared once. -/
  kept : ∀ slot ∈ layout.slots,
    handlerRows.filter (Code.standsAt 2 (declaresField slot.signature.delegateSlot)) =
      [Code.row 2 (HandlerClass.delegateMember FlatMember.name layout slot.signature)]
  /-- Below the root the constructor sets the fields that the struct declares, in the same order. -/
  matched : ((Wrapper.constructorRows ctx cls handlerRows).filterMap assignedField?).drop
      layout.rootSlots.length =
    (FlatStruct.fieldRows structRows).filterMap addressField?

namespace NativeApi

variable {api : NativeApi} {naming : Naming} {cls : NativeClass} {layout : Layout}

/-- The files of a class with a layout follow its slots. -/
theorem wired_of_layout (ctx : Context) (laid : api.layout naming cls = .ok layout) :
    let structFile := FlatStruct.file ctx cls layout
    let handlerFile := Wrapper.fileWith ctx cls (HandlerClass.wrapper ctx cls layout)
    Wired ctx cls layout (Code.rows 0 structFile) (Code.rows 0 handlerFile) ∧
      (NamesOnLines ctx cls layout → structFile.Printed ∧ handlerFile.Printed) ∧
      ((ctx.role cls).isProxy = false → (ctx.role cls).isHandler = true →
        Wrapper.file ctx cls layout = handlerFile) := by
  intro structFile handlerFile
  obtain ⟨ancestry, _, rfl⟩ := layout_eq_ok_iff.mp laid
  have declared : FlatStruct.fieldRows (Code.rows 0 structFile) = _ := FlatStruct.filter_rows_file
  have found : Wrapper.constructorRows ctx cls (Code.rows 0 handlerFile) = _ :=
    Wrapper.bodyOf_constructor
  have distinct : ((Layout.ofAncestry naming cls ancestry).slots.map
      (·.signature.delegateSlot)).Nodup := Layout.nodup_delegateSlots
  refine ⟨⟨Layout.slots_eq_append, ?_, distinct, declared, ?_, ?_, ?_, ?_⟩, ?_, ?_⟩
  · intro index slot place
    rw [Signature.delegateSlot, Signature.slotId, Layout.slot_signature_of_ofAncestry place]
    exact ⟨Layout.index_of_ofAncestry naming cls place, rfl⟩
  · exact found.trans HandlerClass.rows_constructorBody
  · rw [found]
    exact HandlerClass.filter_rows_constructorBody
  · intro slot member
    exact Wrapper.filter_rows_handler member distinct
  · rw [declared, found, addressFields, HandlerClass.assignedFields_constructorBody,
      Layout.slots_eq_append, List.map_append, List.drop_left' (List.length_map _)]
  · intro lines
    exact ⟨lines.flatStruct, lines.handler⟩
  · intro callsOut calledBack
    simp only [Wrapper.file, callsOut, calledBack, Bool.false_eq_true, if_true, if_false]
    rfl

/-- A class with one function of its own, below the counted root. -/
def observer : NativeClass :=
  { NativeClass.bare "Observer" "observer_t" "CefBaseRefCounted" "cef_base_ref_counted_t" with
    virtuals := [⟨"OnResized", "on_resized", "int", [⟨"int", "width"⟩], false, []⟩] }

/-- A context where that class is a handler. -/
def observerContext : Context where
  settings := Settings.default
  classification := Classification.empty.insert "Observer" (.ofRole .handler)
  types := .ofClasses Dictionary.empty [observer]

/-- The names of that class stay on one line each, so that the text of its files follows the
slots. -/
theorem wired_of_layout_observer : ∃ layout,
    NativeApi.layout ⟨[observer], []⟩ observerContext.naming observer = .ok layout ∧
      NamesOnLines observerContext observer layout ∧
      Wired observerContext observer layout
        (Code.rows 0 (FlatStruct.file observerContext observer layout))
        (Code.rows 0 (Wrapper.file observerContext observer layout)) ∧
      (FlatStruct.file observerContext observer layout).Printed ∧
      (Wrapper.file observerContext observer layout).Printed := by
  have climbed : NativeApi.ancestry ⟨[observer], []⟩ observer = .ok ⟨[observer], .refCounted⟩ := by
    cbv
  have laid : NativeApi.layout ⟨[observer], []⟩ observerContext.naming observer =
      .ok (.ofAncestry observerContext.naming observer ⟨[observer], .refCounted⟩) := by
    rw [layout, climbed]
    rfl
  have lines : NamesOnLines observerContext observer
      (.ofAncestry observerContext.naming observer ⟨[observer], .refCounted⟩) := by
    decide +kernel
  obtain ⟨wired, printed, chosen⟩ := wired_of_layout observerContext laid
  obtain ⟨structLines, handlerLines⟩ := printed lines
  have handler := chosen (by decide) (by decide)
  rw [← handler] at wired handlerLines
  exact ⟨_, laid, lines, wired, structLines, handlerLines⟩

end NativeApi

end Bindery
