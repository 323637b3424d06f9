import Bindery.Proofs.Source.Throughout
import Bindery.Proofs.Source.Wiring
import Bindery.Proofs.Text.Without

/-! # Generated code on lines

Names and comments that stay on one line each make code whose rows stay on one line each. So the
text of a generated file is its rows, one on each line. Main statements: this holds of the file of
a flat struct (`NamesOnLines.flatStruct`) and of the file of a handler (`NamesOnLines.handler`).
-/

namespace Bindery

/-! ## Texts on one line -/

/-- A text that stays on one line. -/
def OneLine (text : String) : Prop := '\n' ∉ text.toList

theorem oneLine_literal {text : List Char} (unbroken : '\n' ∉ text) :
    OneLine (String.ofList text) := by
  rwa [OneLine, String.toList_ofList]

instance : DecidablePred OneLine := fun text => inferInstanceAs (Decidable ('\n' ∉ text.toList))

@[simp]
theorem oneLine_append {first second : String} :
    OneLine (first ++ second) ↔ OneLine first ∧ OneLine second := by
  simp only [OneLine, String.toList_append, List.mem_append, not_or]

theorem oneLine_iff {text : String} : OneLine text ↔ Text.Without (· == '\n') text := by
  simp only [OneLine, Text.Without, beq_eq_false_iff_ne]
  exact ⟨fun unbroken c member same => unbroken (same ▸ member),
    fun unbroken member => unbroken '\n' member rfl⟩

theorem oneLine_escapeXml {text : String} (unbroken : OneLine text) : OneLine (escapeXml text) :=
  oneLine_iff.mpr (Text.without_escapeXml (by simp [Text.entityCharacters])
    (oneLine_iff.mp unbroken))

theorem oneLine_trimmed {text : String} (unbroken : OneLine text) : OneLine (trimmed text) :=
  oneLine_iff.mpr (Text.without_trimmed (oneLine_iff.mp unbroken))

theorem oneLine_slotId (sig : Signature) : OneLine sig.slotId := by
  rw [OneLine, Signature.slotId, String.toList_ofList]
  exact not_mem_toDigits (by decide) sig.slot

theorem oneLine_delegateSlot (sig : Signature) : OneLine sig.delegateSlot :=
  sig.not_mem_delegateSlot (by decide) (by decide)

namespace Signature

/-- A signature whose names and comments stay on one line each. -/
@[mk_iff]
structure OnLines (sig : Signature) : Prop where
  name : OneLine sig.name
  fieldName : OneLine sig.fieldName
  delegateType : OneLine sig.delegateType
  targetName : OneLine sig.targetName
  targetReturn : OneLine sig.targetReturn
  entryPoint : OneLine sig.entryPoint
  parameters : ∀ p ∈ sig.parameters, OneLine p.type ∧ OneLine p.name
  comment : ∀ text ∈ sig.comment, OneLine text

instance : DecidablePred OnLines := fun sig => decidable_of_iff' _ (onLines_iff sig)

variable {sig : Signature}

theorem onLines_iff_without : sig.OnLines ↔ sig.Without (· == '\n') := by
  simp only [onLines_iff, without_iff, oneLine_iff]

namespace OnLines

variable (lines : sig.OnLines)
include lines

theorem parameterList : OneLine sig.parameterList :=
  oneLine_iff.mpr ((onLines_iff_without.mp lines).parameterList (by decide))

theorem instanceParameterList : OneLine sig.instanceParameterList :=
  oneLine_iff.mpr ((onLines_iff_without.mp lines).instanceParameterList (by decide))

theorem argumentList : OneLine sig.argumentList :=
  oneLine_iff.mpr ((onLines_iff_without.mp lines).argumentList (by decide))

theorem instanceArguments : OneLine (Text.joined ", " sig.instanceArguments) :=
  oneLine_iff.mpr (Text.without_joined (by decide) (onLines_iff_without.mp lines).instanceArguments)

end OnLines

end Signature

namespace Code

variable {first second body : Code} {heading text name : String}

/-- Code whose lines stay on one line each. -/
theorem unbroken_iff {code : Code} : code.Unbroken ↔ code.Throughout OneLine := Iff.rfl

@[simp]
theorem unbroken_nil : Unbroken [] := throughout_nil

@[simp]
theorem unbroken_line {rest : Code} :
    Unbroken (.line text :: rest) ↔ OneLine text ∧ Unbroken rest := throughout_line

@[simp]
theorem unbroken_blank {rest : Code} : Unbroken (.blank :: rest) ↔ Unbroken rest :=
  throughout_blank

@[simp]
theorem unbroken_append : Unbroken (first ++ second) ↔ Unbroken first ∧ Unbroken second :=
  throughout_append

@[simp]
theorem unbroken_block : Unbroken (block heading body) ↔ OneLine heading ∧ Unbroken body :=
  throughout_block

@[simp]
theorem unbroken_spacedBlock :
    Unbroken (spacedBlock heading body) ↔ OneLine heading ∧ Unbroken body := throughout_spacedBlock

@[simp]
theorem unbroken_concat {parts : List Code} :
    Unbroken (concat parts) ↔ ∀ part ∈ parts, Unbroken part := throughout_concat

@[simp]
theorem unbroken_flatMap {α : Type} {items : List α} {part : α → Code} :
    Unbroken (items.flatMap part) ↔ ∀ item ∈ items, Unbroken (part item) := throughout_flatMap

@[simp]
theorem unbroken_map {α : Type} {items : List α} {line : α → String} :
    Unbroken (items.map fun item => .line (line item)) ↔ ∀ item ∈ items, OneLine (line item) :=
  throughout_map

@[simp]
theorem unbroken_sourceFile :
    (sourceFile name body).Unbroken ↔ OneLine name ∧ Unbroken body := by
  have heading : OneLine s!"namespace {name}" ↔ OneLine name :=
    oneLine_append.trans (and_iff_right (oneLine_literal (by decide)))
  rw [unbroken_iff, throughout_sourceFile, heading]
  rfl

theorem unbroken_usings {namespaces : List String} (each : ∀ name ∈ namespaces, OneLine name) :
    (usings namespaces).Unbroken := by
  rw [usings, unbroken_append, unbroken_map]
  refine ⟨fun name member => ?_, by simp⟩
  simp [toString, each name member]
  and_intros <;> exact oneLine_literal (by decide)

theorem unbroken_documentation {comment : List String} (each : ∀ text ∈ comment, OneLine text) :
    (documentation comment).Unbroken := by
  rw [unbroken_iff]
  refine throughout_documentation (oneLine_literal (by decide)) (oneLine_literal (by decide)) ?_
  intro text member
  simp [toString, oneLine_escapeXml (oneLine_trimmed (each text member))]
  exact oneLine_literal (by decide)

/-- The lines of the text are the rows, and nothing comes after the last of them. -/
def Printed (code : Code) : Prop :=
  Text.splitOn '\n' code.text.toList = (rows 0 code).map String.toList ++ [[]]

end Code

/-- The names and comments that a class and its layout put into generated code stay on one line
each. -/
@[mk_iff]
structure NamesOnLines (ctx : Context) (cls : NativeClass) (layout : Layout) : Prop where
  interopNamespace : OneLine ctx.settings.interopNamespace
  wrapperNamespace : OneLine ctx.settings.wrapperNamespace
  nativeClass : OneLine ctx.settings.nativeClass
  wrapperName : OneLine (ctx.wrapperName cls)
  abiName : OneLine layout.abiName
  comment : ∀ text ∈ cls.comment, OneLine text
  slots : ∀ slot ∈ layout.slots, slot.signature.OnLines
  statics : ∀ sig ∈ ctx.naming.classStatics cls, sig.OnLines
  endings : ∀ slot ∈ layout.slots, ∀ ending ∈ ctx.types.variants slot.signature.targetReturn,
    OneLine ending

instance {ctx : Context} {cls : NativeClass} {layout : Layout} :
    Decidable (NamesOnLines ctx cls layout) :=
  decidable_of_iff' _ (namesOnLines_iff ctx cls layout)

namespace NamesOnLines

variable {ctx : Context} {cls : NativeClass} {layout : Layout} (lines : NamesOnLines ctx cls layout)
include lines

theorem ownSlots : ∀ slot ∈ layout.ownSlots, slot.signature.OnLines :=
  fun slot member => lines.slots slot (List.mem_filter.mp member).1

/-! ## The file of the flat struct -/

theorem directCall {sig : Signature} (member : sig ∈ ctx.naming.classStatics cls) :
    (ctx.directCallAs sig.targetName sig).Unbroken := by
  have own := lines.statics sig member
  simp [Context.directCallAs, toString, own.name, own.entryPoint, own.targetReturn, own.targetName,
    own.parameterList, lines.nativeClass]
  and_intros <;> exact oneLine_literal (by decide)

theorem delegateType {slot : Slot} (member : slot ∈ layout.slots) {ending : String}
    (known : ending ∈ ctx.types.variants slot.signature.targetReturn) {visibility : String}
    (word : OneLine visibility) :
    (FlatStruct.delegateType FlatMember.name ctx visibility slot.signature ending).Unbroken := by
  have own := lines.slots slot member
  simp [FlatStruct.delegateType, FlatMember.name, toString, own.targetReturn, own.delegateType,
    own.parameterList, lines.nativeClass, lines.endings slot member ending known, word]
  and_intros <;> exact oneLine_literal (by decide)

theorem slotForwarder {slot : Slot} (member : slot ∈ layout.slots) {ending : String}
    (known : ending ∈ ctx.types.variants slot.signature.targetReturn) :
    (ProxyClass.slotForwarder FlatMember.name slot.signature ending).Unbroken := by
  have own := lines.slots slot member
  have id := oneLine_slotId slot.signature
  have known := lines.endings slot member ending known
  unfold ProxyClass.slotForwarder
  cases slot.signature.returnsVoid
  all_goals
    simp [FlatMember.name, Code.inBraces, toString, own.name, id, known, own.targetReturn,
      own.targetName, own.delegateType, own.fieldName, own.parameterList, own.argumentList]
    and_intros <;> exact oneLine_literal (by decide)

theorem allocation : (HandlerClass.structMembersUnder FlatMember.name layout).Unbroken := by
  simp [HandlerClass.structMembersUnder, FlatMember.name, FlatMember.alloc, FlatMember.free,
    toString, lines.abiName]
  and_intros <;> exact oneLine_literal (by decide)

theorem fields : (FlatStruct.fields layout).Unbroken := by
  have own : ∀ slot ∈ layout.ownSlots, OneLine slot.signature.fieldName :=
    fun slot member => (lines.ownSlots slot member).fieldName
  have root : OneLine layout.root.abiName := by
    cases layout.root <;> exact oneLine_literal (by decide)
  have each : ∀ slot ∈ layout.ownSlots,
      OneLine s!"internal IntPtr {slot.signature.fieldName};" := by
    intro slot member
    simp [toString, own slot member]
    and_intros <;> exact oneLine_literal (by decide)
  rw [FlatStruct.fields, Code.unbroken_line, Code.unbroken_map]
  refine ⟨?_, each⟩
  simp [toString, root]
  and_intros <;> exact oneLine_literal (by decide)

theorem delegateTypes :
    (FlatStruct.delegateTypes FlatMember.name ctx cls layout).Unbroken := by
  have word : OneLine (if (ctx.role cls).isProxy then "private" else "internal") := by
    split <;> exact oneLine_literal (by decide)
  simp only [FlatStruct.delegateTypes, Code.unbroken_flatMap]
  exact fun slot member ending known => lines.delegateType member known word

theorem roleMembers : (FlatStruct.roleMembers FlatMember.name ctx cls layout).Unbroken := by
  unfold FlatStruct.roleMembers ProxyClass.structMembersUnder
  split
  · simp only [Code.unbroken_flatMap]
    exact fun slot member ending known => lines.slotForwarder member known
  · split
    · exact lines.allocation
    · exact Code.unbroken_nil

theorem unbroken_flatStruct : (FlatStruct.file ctx cls layout).Unbroken := by
  have body : (FlatStruct.body FlatMember.name ctx cls layout).Unbroken := by
    simp only [FlatStruct.body, Code.unbroken_concat, List.forall_mem_cons, Code.unbroken_flatMap]
    exact ⟨lines.fields, by simp, fun sig member => lines.directCall member, lines.delegateTypes,
      lines.roleMembers, by simp⟩
  have attributes : (FlatStruct.preamble ctx).Unbroken := by
    simp [FlatStruct.preamble, Code.usings, toString, lines.nativeClass]
    and_intros <;> exact oneLine_literal (by decide)
  have heading : OneLine s!"internal unsafe struct {layout.abiName}" :=
    oneLine_append.mpr ⟨oneLine_literal (by decide), lines.abiName⟩
  rw [FlatStruct.file_eq, Code.unbroken_sourceFile, Code.unbroken_append, Code.unbroken_block]
  exact ⟨lines.interopNamespace, attributes, heading, body⟩

theorem flatStruct : (FlatStruct.file ctx cls layout).Printed := by
  have unbroken := lines.unbroken_flatStruct
  rw [FlatStruct.file_eq] at unbroken ⊢
  exact Code.splitOn_text_sourceFile
    ((FlatStruct.preamble_lines ctx).wellNested.append FlatStruct.wellNested_body.braced) unbroken

/-! ## The file of a handler -/

theorem thunk {slot : Slot} (member : slot ∈ layout.slots) :
    (HandlerClass.thunk slot.signature).Unbroken := by
  have own := lines.slots slot member
  have documented := Code.unbroken_documentation own.comment
  unfold HandlerClass.thunk
  cases slot.signature.returnsVoid
  all_goals
    simp [toString, own.name, own.targetReturn, own.targetName, own.parameterList,
      own.instanceParameterList, own.instanceArguments, documented]
    and_intros <;> exact oneLine_literal (by decide)

theorem constructorBody : (HandlerClass.constructorBody FlatMember.name layout).Unbroken := by
  have wiring : ∀ slot ∈ layout.slots,
      (HandlerClass.slotAssignment FlatMember.name layout.abiName slot.signature).Unbroken := by
    intro slot member
    have own := lines.slots slot member
    simp [HandlerClass.slotAssignment, FlatMember.name, toString, lines.abiName,
      own.delegateType, own.targetName, own.fieldName, oneLine_delegateSlot]
    and_intros <;> exact oneLine_literal (by decide)
  have allocated : OneLine s!"_self = {layout.abiName}.{FlatMember.name .alloc}();" := by
    simp [FlatMember.name, FlatMember.alloc, toString, lines.abiName]
    and_intros <;> exact oneLine_literal (by decide)
  have rooted : OneLine (HandlerClass.whileRootsLocked "_roots.Add((IntPtr)_self, this);") := by
    unfold HandlerClass.whileRootsLocked Code.inBraces
    simp only [toString, String.reduceAppend]
    exact oneLine_literal (by decide)
  have ending : Code.Unbroken (if layout.root = .scoped then
      [.blank, .line (HandlerClass.whileRootsLocked "_roots.Add((IntPtr)_self, this);")]
      else []) := by
    split
    · simpa using rooted
    · exact Code.unbroken_nil
  simp only [HandlerClass.constructorBody, Code.unbroken_concat, List.forall_mem_cons,
    Code.unbroken_line, Code.unbroken_blank, Code.unbroken_flatMap]
  exact ⟨⟨allocated, Code.unbroken_nil⟩, wiring, ending, by simp⟩

theorem membersBefore : (HandlerClass.membersBefore ctx cls layout).Unbroken := by
  unfold HandlerClass.membersBefore HandlerClass.fields HandlerClass.reverseLookup
  cases layout.isRefCounted <;> cases ctx.classification.isReversible cls.name
  all_goals
    simp [toString, lines.abiName, lines.wrapperName, Code.inBraces]
    and_intros <;> exact oneLine_literal (by decide)

theorem delegateFields : (HandlerClass.delegateFields FlatMember.name layout).Unbroken := by
  have each : ∀ slot ∈ layout.slots,
      OneLine (HandlerClass.delegateMember FlatMember.name layout slot.signature) := by
    intro slot member
    unfold HandlerClass.delegateMember
    simp [FlatMember.name, toString, lines.abiName, (lines.slots slot member).delegateType,
      oneLine_delegateSlot]
    and_intros <;> exact oneLine_literal (by decide)
  exact Code.unbroken_map.mpr each

theorem rootMembers : Code.Unbroken (match layout.root with
    | .refCounted =>
      HandlerClass.refCountedMembers layout.abiName (ctx.classification.disposesItself cls.name)
    | .scoped => HandlerClass.scopedMembers layout.abiName) := by
  split
  · unfold HandlerClass.refCountedMembers
    cases ctx.classification.disposesItself cls.name
    all_goals
      simp [Code.inBraces, toString, lines.abiName]
      and_intros <;> exact oneLine_literal (by decide)
  · unfold HandlerClass.scopedMembers HandlerClass.whileRootsLocked
    simp [Code.inBraces, toString, lines.abiName]
    and_intros <;> exact oneLine_literal (by decide)

theorem membersAfter : (HandlerClass.membersAfter FlatMember.name ctx cls layout).Unbroken := by
  have disposed : (HandlerClass.disposal FlatMember.name (ctx.wrapperName cls)
      layout.abiName).Unbroken := by
    simp [HandlerClass.disposal, FlatMember.name, FlatMember.free, toString, lines.abiName,
      lines.wrapperName]
    and_intros <;> exact oneLine_literal (by decide)
  have passed : (HandlerClass.selfReference layout).Unbroken := by
    unfold HandlerClass.selfReference
    cases layout.isRefCounted
    all_goals
      simp [toString, lines.abiName]
      and_intros <;> exact oneLine_literal (by decide)
  have thunks : Code.Unbroken
      (layout.ownSlots.flatMap fun slot => .blank :: HandlerClass.thunk slot.signature) := by
    simp only [Code.unbroken_flatMap, Code.unbroken_blank]
    exact fun slot member => lines.thunk (List.mem_filter.mp member).1
  simp only [HandlerClass.membersAfter, Code.unbroken_append]
  exact ⟨disposed, lines.rootMembers, passed, thunks⟩

theorem unbroken_handler :
    (Wrapper.fileWith ctx cls (HandlerClass.wrapper ctx cls layout)).Unbroken := by
  have constructed : (HandlerClass.construction FlatMember.name (ctx.wrapperName cls)
      layout).Unbroken := by
    rw [HandlerClass.construction_eq, Code.unbroken_spacedBlock]
    refine ⟨?_, lines.constructorBody⟩
    simp [toString, lines.wrapperName]
    and_intros <;> exact oneLine_literal (by decide)
  have body : (HandlerClass.body FlatMember.name ctx cls layout).Unbroken := by
    simp only [HandlerClass.body_eq, Code.unbroken_append, Code.unbroken_blank]
    exact ⟨lines.membersBefore, lines.delegateFields, Code.unbroken_nil, constructed,
      lines.membersAfter⟩
  have overview : ∀ text ∈ ctx.classification.overview cls.name, OneLine s!"// {text}" := by
    have role (role : Role) : OneLine role.display := by
      unfold Role.display
      split <;> exact oneLine_literal (by decide)
    simp [Classification.overview, toString, role]
    and_intros <;> exact oneLine_literal (by decide)
  have preamble : (Wrapper.preamble ctx cls).Unbroken := by
    simp only [Wrapper.preamble, Code.unbroken_append, Code.unbroken_map]
    refine ⟨⟨Code.unbroken_usings ?_, overview⟩, Code.unbroken_documentation lines.comment⟩
    simp [lines.interopNamespace]
    and_intros <;> exact oneLine_literal (by decide)
  have heading : OneLine (HandlerClass.heading ctx cls) :=
    oneLine_append.mpr ⟨oneLine_literal (by decide), lines.wrapperName⟩
  have whole : Wrapper.fileWith ctx cls (HandlerClass.wrapper ctx cls layout) = _ :=
    Wrapper.fileWith_handler_eq
  rw [whole, Code.unbroken_sourceFile, Code.unbroken_append, Code.unbroken_block]
  exact ⟨lines.wrapperNamespace, preamble, heading, body⟩

theorem handler : (Wrapper.fileWith ctx cls (HandlerClass.wrapper ctx cls layout)).Printed := by
  have unbroken := lines.unbroken_handler
  rw [Wrapper.fileWith_handler_eq] at unbroken ⊢
  exact Code.splitOn_text_sourceFile
    ((Wrapper.preamble_lines ctx cls).wellNested.append HandlerClass.wellNested_body.braced)
    unbroken

end NamesOnLines

end Bindery
