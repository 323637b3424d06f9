import Bindery.Proofs.Layout.Extension
import Bindery.Proofs.Source.Uses

/-! # Wrapper files and flat structs

The file of a flat struct declares the statics of the class, one delegate type for each variant of
each slot and, by role, one forwarder for each variant of each slot or allocation. A slot has one
variant with an empty ending unless the dictionary gives its return type others, while the wrapper
file always uses slots without an ending. Main statement: all that the wrapper file of a class uses
of its flat struct is declared there exactly when each slot that it uses is declared without an
ending, as a variant of some slot or as a static (`fits_iff`). There is a dictionary with which it
is not (`not_fits_of_suffix`).
-/

namespace Bindery

/-- A line that declares a member of a flat struct. -/
inductive Declaration : FlatMember → (name line : String) → Prop where
  | delegateType {plain name : String} (visibility result parameters : String) :
    Declaration (.delegateType plain) name
      s!"{visibility} delegate {result} {name}({parameters});"
  | external {plain name : String} (result parameters : String) :
    Declaration (.function plain) name s!"public static extern {result} {name}({parameters});"
  | method {plain name : String} (visibility result parameters : String) :
    Declaration (.function plain) name s!"{visibility} static {result} {name}({parameters})"

theorem Declaration.holdsName : LineShape.HoldsName Declaration := by
  intro member name line declared
  cases declared <;>
    · simp only [toString, String.length_append]
      omega

/-- The name of a declared member stands before its parameters. -/
theorem Declaration.infix_line {member : FlatMember} {name line : String}
    (declared : Declaration member name line) : name.toList ++ ['('] <:+: line.toList := by
  cases declared with
  | delegateType visibility result parameters =>
    refine ⟨s!"{visibility} delegate {result} ".toList, s!"{parameters});".toList, ?_⟩
    simp [toString]
  | external result parameters =>
    refine ⟨s!"public static extern {result} ".toList, s!"{parameters});".toList, ?_⟩
    simp [toString]
  | method visibility result parameters =>
    refine ⟨s!"{visibility} static {result} ".toList, s!"{parameters})".toList, ?_⟩
    simp [toString]

/-- A text with a declaration has the name of what is declared, followed by a parenthesis, on one of
its lines. -/
theorem exists_mem_pieces_of_hasLine {code : Code} {member : FlatMember} {name : String}
    (onLine : '\n' ∉ name.toList) (declared : code.HasLine Declaration member name) :
    ∃ piece ∈ Code.pieces 4 0 code, name.toList ++ ['('] <:+: piece.toList := by
  obtain ⟨before, line, after, text, shaped⟩ := declared
  apply Code.exists_mem_pieces_of_infix
  · simpa using onLine
  · simp
  · have inLine := shaped.infix_line
    rw [text]
    simp only [String.toList_append, List.append_assoc]
    exact List.infix_append_of_infix_right (List.infix_append_of_infix_left inLine)

namespace FlatStruct

variable {ctx : Context} {cls : NativeClass} {layout : Layout}

/-- What the file of a class's flat struct holds. -/
inductive Holds (ctx : Context) (cls : NativeClass) (layout : Layout) : FlatMember → Prop where
  | classStatic {sig : Signature} (member : sig ∈ ctx.naming.classStatics cls) :
    Holds ctx cls layout (.function sig.targetName)
  | delegateType {slot : Slot} {ending : String} (member : slot ∈ layout.slots)
    (variant : ending ∈ ctx.types.variants slot.signature.targetReturn) :
    Holds ctx cls layout (.delegateType s!"{slot.signature.delegateType}{ending}")
  | forwarder {slot : Slot} {ending : String} (callsOut : (ctx.role cls).isProxy = true)
    (member : slot ∈ layout.slots)
    (variant : ending ∈ ctx.types.variants slot.signature.targetReturn) :
    Holds ctx cls layout (.function s!"{slot.signature.targetName}{ending}")
  | alloc (noProxy : (ctx.role cls).isProxy = false)
    (calledBack : (ctx.role cls).isHandler = true) : Holds ctx cls layout .alloc
  | free (noProxy : (ctx.role cls).isProxy = false)
    (calledBack : (ctx.role cls).isHandler = true) : Holds ctx cls layout .free

/-- Whether the file of a class's flat struct declares a member: whatever the members are called,
the text of the file has a declaration of the name of the member. -/
def Declares (ctx : Context) (cls : NativeClass) (layout : Layout) (member : FlatMember) : Prop :=
  Shows Declaration (fun names => fileUnder names ctx cls layout) member

theorem dependsOn_delegateTypes :
    DependsOn (fun names => delegateTypes names ctx cls layout) (Holds ctx cls layout) := by
  intro names renamed same
  refine List.flatMap_congr fun slot member => List.flatMap_congr fun ending variant => ?_
  simp only [delegateType, same _ (.delegateType member variant)]

theorem dependsOn_roleMembers :
    DependsOn (fun names => roleMembers names ctx cls layout) (Holds ctx cls layout) := by
  intro names renamed same
  unfold roleMembers
  split
  · next callsOut =>
    refine List.flatMap_congr fun slot member => List.flatMap_congr fun ending variant => ?_
    simp only [ProxyClass.slotForwarder, same _ (.delegateType member variant),
      same _ (.forwarder callsOut member variant)]
  · next noProxy =>
    split
    · next calledBack =>
      have noProxy : (ctx.role cls).isProxy = false := Bool.eq_false_iff.mpr noProxy
      simp only [HandlerClass.structMembersUnder, same _ (.alloc noProxy calledBack),
        same _ (.free noProxy calledBack)]
    · rfl

theorem dependsOn_fileUnder :
    DependsOn (fun names => fileUnder names ctx cls layout) (Holds ctx cls layout) := by
  intro names renamed same
  have statics : ∀ sig ∈ ctx.naming.classStatics cls,
      ctx.directCallAs (names (.function sig.targetName)) sig =
        ctx.directCallAs (renamed (.function sig.targetName)) sig := by
    intro sig member
    rw [same _ (.classStatic member)]
  have delegates : delegateTypes names ctx cls layout = delegateTypes renamed ctx cls layout :=
    dependsOn_delegateTypes names renamed same
  have forRole : roleMembers names ctx cls layout = roleMembers renamed ctx cls layout :=
    dependsOn_roleMembers names renamed same
  simp only [fileUnder, body, List.flatMap_congr statics, delegates, forRole]

theorem writes_directCallAs (ctx : Context) (name : String) (sig : Signature) :
    (ctx.directCallAs name sig).Writes
      s!"public static extern {sig.targetReturn} {name}({sig.parameterList});" := by
  simp [Context.directCallAs]

theorem writes_delegateType (names : MemberNames) (ctx : Context) (visibility : String)
    (sig : Signature) (ending : String) :
    ∃ line, (delegateType names ctx visibility sig ending).Writes line ∧
      Declaration (.delegateType s!"{sig.delegateType}{ending}")
        (names (.delegateType s!"{sig.delegateType}{ending}")) line := by
  refine ⟨_, ?_, .delegateType visibility s!"{sig.targetReturn}{ending}" sig.parameterList⟩
  simp [delegateType, ← String.toList_inj, toString]

theorem writes_slotForwarder (names : MemberNames) (sig : Signature) (ending : String) :
    ∃ line, (ProxyClass.slotForwarder names sig ending).Writes line ∧
      Declaration (.function s!"{sig.targetName}{ending}")
        (names (.function s!"{sig.targetName}{ending}")) line := by
  refine ⟨_, ?_, .method "public" s!"{sig.targetReturn}{ending}" sig.parameterList⟩
  simp [ProxyClass.slotForwarder, ← String.toList_inj, toString]

theorem writes_allocation (names : MemberNames) (layout : Layout) :
    (∃ line, (HandlerClass.structMembersUnder names layout).Writes line ∧
        Declaration .alloc (names .alloc) line) ∧
      ∃ line, (HandlerClass.structMembersUnder names layout).Writes line ∧
        Declaration .free (names .free) line := by
  constructor
  · refine ⟨_, ?_, .method "internal" s!"{layout.abiName}*" ""⟩
    simp [HandlerClass.structMembersUnder, ← String.toList_inj, toString]
  · refine ⟨_, ?_, .method "internal" "void" s!"{layout.abiName}* ptr"⟩
    simp [HandlerClass.structMembersUnder, ← String.toList_inj, toString]

/-- The struct has a declaration for each member that it holds. -/
theorem writes_body_of_holds {member : FlatMember} (held : Holds ctx cls layout member)
    (names : MemberNames) :
    ∃ line, (body names ctx cls layout).Writes line ∧ Declaration member (names member) line := by
  cases held with
  | @classStatic sig member =>
    have written := writes_directCallAs ctx (names (.function sig.targetName)) sig
    have inStatics : Code.Writes ((ctx.naming.classStatics cls).flatMap fun sig =>
        ctx.directCallAs (names (.function sig.targetName)) sig) _ :=
      Code.writes_flatMap.mpr ⟨sig, member, written⟩
    refine ⟨_, ?_, .external sig.targetReturn sig.parameterList⟩
    simp only [body, Code.writes_concat, List.exists_mem_cons_iff, inStatics, true_or, or_true]
  | @delegateType slot ending member variant =>
    let visibility := if (ctx.role cls).isProxy then "private" else "internal"
    obtain ⟨line, written, declared⟩ :=
      writes_delegateType names ctx visibility slot.signature ending
    have inDelegates : (delegateTypes names ctx cls layout).Writes line :=
      Code.writes_flatMap.mpr ⟨slot, member, Code.writes_flatMap.mpr ⟨ending, variant, written⟩⟩
    refine ⟨line, ?_, declared⟩
    simp only [body, Code.writes_concat, List.exists_mem_cons_iff, inDelegates, true_or, or_true]
  | @forwarder slot ending callsOut member variant =>
    obtain ⟨line, written, declared⟩ := writes_slotForwarder names slot.signature ending
    have inForwarders : (ProxyClass.structMembersUnder names ctx layout).Writes line :=
      Code.writes_flatMap.mpr ⟨slot, member, Code.writes_flatMap.mpr ⟨ending, variant, written⟩⟩
    refine ⟨line, ?_, declared⟩
    simp only [body, roleMembers, callsOut, if_true, Code.writes_concat, List.exists_mem_cons_iff,
      inForwarders, true_or, or_true]
  | alloc noProxy calledBack =>
    obtain ⟨⟨line, written, declared⟩, _⟩ := writes_allocation names layout
    refine ⟨line, ?_, declared⟩
    simp only [body, roleMembers, noProxy, calledBack, Bool.false_eq_true, if_true, if_false,
      Code.writes_concat, List.exists_mem_cons_iff, written, true_or, or_true]
  | free noProxy calledBack =>
    obtain ⟨_, line, written, declared⟩ := writes_allocation names layout
    refine ⟨line, ?_, declared⟩
    simp only [body, roleMembers, noProxy, calledBack, Bool.false_eq_true, if_true, if_false,
      Code.writes_concat, List.exists_mem_cons_iff, written, true_or, or_true]

theorem writes_of_holds {member : FlatMember} (held : Holds ctx cls layout member)
    (names : MemberNames) :
    ∃ line, (fileUnder names ctx cls layout).Writes line ∧
      Declaration member (names member) line := by
  obtain ⟨line, written, declared⟩ := writes_body_of_holds held names
  refine ⟨line, ?_, declared⟩
  simp only [fileUnder, Code.writes_sourceFile, Code.writes_concat, List.exists_mem_cons_iff,
    Code.writes_block, written, true_or, or_true]

/-- The file of a flat struct declares the members that it holds. -/
theorem declares_iff {member : FlatMember} :
    Declares ctx cls layout member ↔ Holds ctx cls layout member :=
  shows_iff Declaration.holdsName dependsOn_fileUnder fun _ held names => writes_of_holds held names

end FlatStruct

namespace Wrapper

variable {ctx : Context} {cls : NativeClass} {layout : Layout}

/-- The slots that a wrapper class uses. A handler fills all slots. A proxy calls those that its
class declares, and those of the root where it owns a counted reference. -/
def usedSlots (ctx : Context) (cls : NativeClass) (layout : Layout) : List Slot :=
  if (ctx.role cls).isProxy then
    (if ProxyClass.ownsReference layout then layout.rootSlots else []) ++ layout.declaredSlots
  else layout.slots

/-- What stands for a variant of a slot in the flat struct: for a proxy the function that forwards a
call, for a handler the delegate type. -/
def slotMember (ctx : Context) (cls : NativeClass) (slot : Slot) (ending : String) : FlatMember :=
  if (ctx.role cls).isProxy then .function s!"{slot.signature.targetName}{ending}"
  else .delegateType s!"{slot.signature.delegateType}{ending}"

/-- The slots of the counted root are the functions that a proxy calls of it. -/
theorem exists_mem_rootSlots_iff {api : NativeApi} (laid : api.layout ctx.naming cls = .ok layout)
    (counted : layout.isRefCounted = true) {function : String} :
    (∃ slot ∈ layout.rootSlots, slot.signature.targetName = function) ↔
      function ∈ ProxyClass.rootCalls := by
  obtain ⟨ancestry, _, rfl⟩ := NativeApi.layout_eq_ok_iff.mp laid
  have root : ancestry.root = .refCounted := of_decide_eq_true counted
  rw [Layout.rootSlots_ofAncestry, root, ← List.mem_map]
  rfl

theorem slotMember_plain (slot : Slot) : slotMember ctx cls slot "" =
    if (ctx.role cls).isProxy then .function slot.signature.targetName
    else .delegateType slot.signature.delegateType := by
  simp only [slotMember, toString, String.append_empty]

/-- The slots that a class uses are used without an ending. -/
theorem uses_slotMember {api : NativeApi} (laid : api.layout ctx.naming cls = .ok layout)
    (one : (ctx.classification.isProxy cls.name ^^ ctx.classification.isHandler cls.name) = true)
    {slot : Slot} (member : slot ∈ usedSlots ctx cls layout) :
    Uses ctx cls layout (slotMember ctx cls slot "") := by
  rw [slotMember_plain]
  unfold usedSlots at member
  unfold Uses
  split at member
  · next callsOut =>
    rw [if_pos callsOut, if_pos callsOut]
    rcases List.mem_append.mp member with ofRoot | declared
    · split at ofRoot
      · next owned =>
        have counted := (Bool.and_eq_true_iff.mp owned).2
        exact .rootCall owned ((exists_mem_rootSlots_iff laid counted).mp ⟨slot, ofRoot, rfl⟩)
      · cases ofRoot
    · exact .declaredSlot declared
  · next noProxy =>
    rw [if_neg noProxy, if_neg noProxy]
    have calledBack : (ctx.role cls).isHandler = true := by
      have noProxy : ctx.classification.isProxy cls.name = false := Bool.eq_false_iff.mpr noProxy
      rw [noProxy, Bool.false_xor] at one
      exact one
    exact ⟨calledBack, .delegateType member⟩

/-- What a class uses beside slots is held. -/
theorem holds_or_exists_slot_of_uses {api : NativeApi}
    (laid : api.layout ctx.naming cls = .ok layout) {member : FlatMember}
    (used : Uses ctx cls layout member) : FlatStruct.Holds ctx cls layout member ∨
      ∃ slot ∈ usedSlots ctx cls layout, member = slotMember ctx cls slot "" := by
  simp only [slotMember_plain]
  unfold Uses at used
  split at used
  · next callsOut =>
    simp only [usedSlots, callsOut, if_true, List.mem_append]
    cases used with
    | @rootCall function owned member =>
      have counted := (Bool.and_eq_true_iff.mp owned).2
      obtain ⟨slot, ofRoot, rfl⟩ := (exists_mem_rootSlots_iff laid counted).mpr member
      exact .inr ⟨slot, .inl (by rwa [if_pos owned]), rfl⟩
    | classStatic member => exact .inl (.classStatic member)
    | @declaredSlot slot member => exact .inr ⟨slot, .inr member, rfl⟩
  · next noProxy =>
    obtain ⟨calledBack, used⟩ := used
    have noProxy : (ctx.role cls).isProxy = false := Bool.eq_false_iff.mpr noProxy
    simp only [usedSlots, noProxy, Bool.false_eq_true, if_false]
    cases used with
    | alloc => exact .inl (.alloc noProxy calledBack)
    | free => exact .inl (.free noProxy calledBack)
    | @delegateType slot member => exact .inr ⟨slot, member, rfl⟩

/-- A slot is held without an ending if some slot has a variant, or the class a static, of that
name. -/
theorem holds_slotMember_iff {slot : Slot} :
    FlatStruct.Holds ctx cls layout (slotMember ctx cls slot "") ↔
      (∃ other ∈ layout.slots, ∃ ending ∈ ctx.types.variants other.signature.targetReturn,
        slotMember ctx cls other ending = slotMember ctx cls slot "") ∨
      ∃ sig ∈ ctx.naming.classStatics cls,
        .function sig.targetName = slotMember ctx cls slot "" := by
  constructor
  · intro held
    generalize called : slotMember ctx cls slot "" = member at held ⊢
    rw [slotMember_plain] at called
    cases held with
    | classStatic member => exact .inr ⟨_, member, rfl⟩
    | delegateType member variant =>
      refine .inl ⟨_, member, _, variant, ?_⟩
      split at called
      · cases called
      · next noProxy => rw [slotMember, if_neg noProxy]
    | forwarder callsOut member variant =>
      exact .inl ⟨_, member, _, variant, by rw [slotMember, if_pos callsOut]⟩
    | alloc noProxy calledBack =>
      rw [noProxy] at called
      cases called
    | free noProxy calledBack =>
      rw [noProxy] at called
      cases called
  · rintro (⟨other, member, ending, variant, same⟩ | ⟨sig, member, same⟩)
    · rw [← same, slotMember]
      split
      · next callsOut => exact .forwarder callsOut member variant
      · exact .delegateType member variant
    · rw [← same]
      exact .classStatic member

theorem mem_slots_of_mem_usedSlots {slot : Slot} (member : slot ∈ usedSlots ctx cls layout) :
    slot ∈ layout.slots := by
  unfold usedSlots at member
  split at member
  · rcases List.mem_append.mp member with ofRoot | declared
    · split at ofRoot
      · exact (List.mem_filter.mp ofRoot).1
      · cases ofRoot
    · exact (List.mem_filter.mp (List.mem_filter.mp declared).1).1
  · exact member

/-- Whether the file of a class's flat struct declares all members of the struct that the wrapper
file of the class refers to. -/
def Fits (ctx : Context) (cls : NativeClass) (layout : Layout) : Prop :=
  ∀ member, RefersTo ctx cls layout member → FlatStruct.Declares ctx cls layout member

theorem fits_iff_holds_of_uses : Fits ctx cls layout ↔
    ∀ member, Uses ctx cls layout member → FlatStruct.Holds ctx cls layout member := by
  simp only [Fits, refersTo_iff, FlatStruct.declares_iff]

/-- Where the files fit, the file of the flat struct declares what the wrapper file refers to by its
own name. -/
theorem Fits.hasLine (fits : Fits ctx cls layout) {member : FlatMember}
    (refers : RefersTo ctx cls layout member) :
    (FlatStruct.file ctx cls layout).HasLine Declaration member member.name :=
  fits member refers FlatMember.name

/-- The files of a class with one role fit exactly when each slot that the wrapper file uses is
declared without an ending: as a variant of some slot, or as a static of the class. -/
theorem fits_iff {api : NativeApi} (laid : api.layout ctx.naming cls = .ok layout)
    (one : (ctx.classification.isProxy cls.name ^^ ctx.classification.isHandler cls.name) = true) :
    Fits ctx cls layout ↔ ∀ slot ∈ usedSlots ctx cls layout,
      (∃ other ∈ layout.slots, ∃ ending ∈ ctx.types.variants other.signature.targetReturn,
        slotMember ctx cls other ending = slotMember ctx cls slot "") ∨
      ∃ sig ∈ layout.statics, .function sig.targetName = slotMember ctx cls slot "" := by
  rw [fits_iff_holds_of_uses, NativeApi.statics_of_layout laid]
  constructor
  · intro fits slot member
    exact holds_slotMember_iff.mp (fits _ (uses_slotMember laid one member))
  · intro plain member used
    obtain held | ⟨slot, inside, rfl⟩ := holds_or_exists_slot_of_uses laid used
    · exact held
    · exact holds_slotMember_iff.mpr (plain slot inside)

/-- The files fit when each slot that is used has a variant without an ending. -/
theorem fits_of_plain_variants {api : NativeApi} (laid : api.layout ctx.naming cls = .ok layout)
    (plain : ∀ slot ∈ usedSlots ctx cls layout,
      "" ∈ ctx.types.variants slot.signature.targetReturn) : Fits ctx cls layout := by
  rw [fits_iff_holds_of_uses]
  intro member used
  obtain held | ⟨slot, inside, rfl⟩ := holds_or_exists_slot_of_uses laid used
  · exact held
  · exact holds_slotMember_iff.mpr
      (.inl ⟨slot, mem_slots_of_mem_usedSlots inside, "", plain slot inside, rfl⟩)

/-- Without platform variants the files of every class fit. -/
theorem fits_of_platformReturns_empty {api : NativeApi}
    (laid : api.layout ctx.naming cls = .ok layout)
    (none : ctx.types.dictionary.platformReturns = ∅) : Fits ctx cls layout := by
  refine fits_of_plain_variants laid fun slot _ => ?_
  rw [TypeMap.variants, none]
  exact List.mem_singleton_self ""

/-- A class that derives from the counted root and has no functions of its own. -/
def counted : NativeClass := .bare "Widget" "widget_t" "CefBaseRefCounted" "cef_base_ref_counted_t"

/-- A context where that class has a role and the return type `int` has variants. -/
def countedContext (role : Role) (endings : List String) : Context where
  settings := Settings.default
  classification := Classification.empty.insert "Widget" (.ofRole role)
  types := .ofClasses
    { Dictionary.empty with platformReturns := Table.ofList [("int", endings)] } [counted]

/-- The layout of that class. -/
def countedLayout (role : Role) (endings : List String) : Layout :=
  .ofAncestry (countedContext role endings).naming counted ⟨[counted], .refCounted⟩

theorem layout_counted (role : Role) (endings : List String) :
    NativeApi.layout ⟨[counted], []⟩ (countedContext role endings).naming counted =
      .ok (countedLayout role endings) := by
  have climbed : NativeApi.ancestry ⟨[counted], []⟩ counted = .ok ⟨[counted], .refCounted⟩ := by
    cbv
  rw [NativeApi.layout, climbed]
  rfl

theorem fits_iff_with_plain_ending :
    NativeApi.layout ⟨[counted], []⟩ (countedContext .proxy ["_win", ""]).naming counted =
        .ok (countedLayout .proxy ["_win", ""]) ∧
      Fits (countedContext .proxy ["_win", ""]) counted (countedLayout .proxy ["_win", ""]) := by
  refine ⟨layout_counted _ _, (fits_iff (layout_counted _ _) (by decide)).mpr ?_⟩
  decide

/-- A text within a text is there in bytes too. In a whole file, bytes are faster to search. -/
theorem infix_bytes {text whole : String} (within : text.toList <:+: whole.toList) :
    text.toByteArray.data.toList <:+: whole.toByteArray.data.toList := by
  obtain ⟨front, back, spelled⟩ := within
  have cut : whole = String.ofList front ++ text ++ String.ofList back := by
    rw [← String.toList_inj, ← spelled]
    simp
  rw [cut, String.toByteArray_append, String.toByteArray_append, ByteArray.data_append,
    ByteArray.data_append, Array.toList_append, Array.toList_append]
  exact List.infix_append _ _ _

/-- With one ending, and not the empty one, the wrapper file of a handler refers to a delegate type
that the file of its flat struct does not declare. -/
theorem not_fits_of_suffix :
    NativeApi.layout ⟨[counted], []⟩ (countedContext .handler ["_win"]).naming counted =
        .ok (countedLayout .handler ["_win"]) ∧
      ((countedContext .handler ["_win"]).classification.isProxy counted.name ^^
        (countedContext .handler ["_win"]).classification.isHandler counted.name) = true ∧
      RefersTo (countedContext .handler ["_win"]) counted (countedLayout .handler ["_win"])
        (.delegateType "release_delegate") ∧
      ¬(FlatStruct.file (countedContext .handler ["_win"]) counted
        (countedLayout .handler ["_win"])).HasLine Declaration
          (.delegateType "release_delegate") "release_delegate" := by
  have laid := layout_counted .handler ["_win"]
  have one : ((countedContext .handler ["_win"]).classification.isProxy counted.name ^^
      (countedContext .handler ["_win"]).classification.isHandler counted.name) = true := by
    decide
  let release : Slot := ⟨1, Naming.baseCapability counted .release 1⟩
  have member : release ∈
      usedSlots (countedContext .handler ["_win"]) counted (countedLayout .handler ["_win"]) := by
    decide
  have called : slotMember (countedContext .handler ["_win"]) counted release "" =
      .delegateType "release_delegate" := by
    decide
  have nowhere : ∀ piece ∈ Code.pieces 4 0 (FlatStruct.file (countedContext .handler ["_win"])
      counted (countedLayout .handler ["_win"])),
        ¬"release_delegate(".toByteArray.data.toList <:+: piece.toByteArray.data.toList := by
    decide +kernel
  have opened : "release_delegate".toList ++ ['('] = "release_delegate(".toList := by simp
  refine ⟨laid, one, ?_, fun declared => ?_⟩
  · rw [refersTo_iff, ← called]
    exact uses_slotMember laid one member
  · obtain ⟨piece, inside, found⟩ := exists_mem_pieces_of_hasLine (by decide) declared
    rw [opened] at found
    exact nowhere piece inside (infix_bytes found)

end Wrapper

end Bindery
