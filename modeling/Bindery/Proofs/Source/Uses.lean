import Mathlib.Data.List.Basic
import Bindery.Proofs.Generator.Roles
import Bindery.Proofs.Source.Names

/-! # What wrapper classes use of flat structs

The wrapper class of a handler uses the delegate type of every slot, and allocation. That of a proxy
uses one static function for each function that it calls: the statics of the class, the slots that
the class declares and, where the class owns a counted reference, the functions of the root. Main
statement: the text of a wrapper file refers through the flat struct to these members and no others,
whatever the members are called (`Wrapper.refersTo_iff`).
-/

namespace Bindery

/-- A line that refers to a member through the flat struct with a name. -/
def ReferenceThrough (interface : String) : LineShape := fun _ name line =>
  ∃ before after : String, line = s!"{before}{interface}.{name}{after}"

theorem ReferenceThrough.holdsName (interface : String) :
    (ReferenceThrough interface).HoldsName := by
  rintro member name line ⟨before, after, rfl⟩
  simp only [toString, String.length_append]
  omega

namespace HandlerClass

variable {ctx : Context} {cls : NativeClass} {layout : Layout}

/-- What the wrapper class of a handler uses of its flat struct. -/
inductive Uses (layout : Layout) : FlatMember → Prop where
  | alloc : Uses layout .alloc
  | free : Uses layout .free
  | delegateType {slot : Slot} (member : slot ∈ layout.slots) :
    Uses layout (.delegateType slot.signature.delegateType)

theorem dependsOn_body : DependsOn (fun names => body names ctx cls layout) (Uses layout) := by
  intro names renamed same
  have field : ∀ slot ∈ layout.slots, delegateField names layout.abiName slot.signature =
      delegateField renamed layout.abiName slot.signature := by
    intro slot member
    rw [delegateField, delegateField, same _ (.delegateType member)]
  have assignment : ∀ slot ∈ layout.slots, slotAssignment names layout.abiName slot.signature =
      slotAssignment renamed layout.abiName slot.signature := by
    intro slot member
    rw [slotAssignment, slotAssignment, same _ (.delegateType member)]
  have fields := List.map_congr_left field
  have assignments := List.flatMap_congr assignment
  simp only [body, construction, disposal, fields, assignments, same _ .alloc, same _ .free]

theorem writes_construction (names : MemberNames) (name : String) (layout : Layout) :
    (construction names name layout).Writes s!"_self = {layout.abiName}.{names .alloc}();" := by
  simp [construction]

theorem writes_disposal (names : MemberNames) (name interface : String) :
    (disposal names name interface).Writes s!"{interface}.{names .free}(_self);" := by
  simp [disposal]

/-- The class has a line for each member that it uses. -/
theorem writes_of_uses {member : FlatMember} (used : Uses layout member) (names : MemberNames) :
    ∃ line, (body names ctx cls layout).Writes line ∧
      ReferenceThrough layout.abiName member (names member) line := by
  cases used with
  | alloc =>
    have constructed := writes_construction names (ctx.wrapperName cls) layout
    have inBody : (body names ctx cls layout).Writes
        s!"_self = {layout.abiName}.{names .alloc}();" := by
      simp [body, constructed]
    exact ⟨_, inBody, "_self = ", "();", rfl⟩
  | free =>
    have disposed := writes_disposal names (ctx.wrapperName cls) layout.abiName
    have inBody : (body names ctx cls layout).Writes
        s!"{layout.abiName}.{names .free}(_self);" := by
      simp [body, disposed]
    exact ⟨_, inBody, "", "(_self);", by simp [toString]⟩
  | @delegateType slot member =>
    have field : delegateField names layout.abiName slot.signature ∈
        layout.slots.map fun slot => delegateField names layout.abiName slot.signature :=
      List.mem_map_of_mem member
    have written := Code.writes_of_mem field
    let delegate := names (.delegateType slot.signature.delegateType)
    have inBody : (body names ctx cls layout).Writes
        s!"private {layout.abiName}.{delegate} {slot.signature.delegateSlot};" := by
      simp [body, written, delegate]
    refine ⟨_, inBody, "private ", s!" {slot.signature.delegateSlot};", ?_⟩
    simp only [delegate, toString, String.append_assoc]

end HandlerClass

namespace ProxyClass

variable {ctx : Context} {cls : NativeClass} {layout : Layout}

/-- What the wrapper class of a proxy calls of the root when it owns a counted reference. -/
def rootCalls : List String := ["add_ref", "release", "has_one_ref", "has_at_least_one_ref"]

/-- Whether the wrapper class of a proxy owns a counted reference. The class of a proxy that is not
next to the root leaves it to its base. -/
def ownsReference (layout : Layout) : Bool := layout.isRootChild && layout.isRefCounted

/-- What the wrapper class of a proxy uses of its flat struct. -/
inductive Uses (ctx : Context) (cls : NativeClass) (layout : Layout) : FlatMember → Prop where
  | rootCall {function : String} (owned : ownsReference layout = true)
    (member : function ∈ rootCalls) : Uses ctx cls layout (.function function)
  | classStatic {sig : Signature} (member : sig ∈ ctx.naming.classStatics cls) :
    Uses ctx cls layout (.function sig.targetName)
  | declaredSlot {slot : Slot} (member : slot ∈ layout.declaredSlots) :
    Uses ctx cls layout (.function slot.signature.targetName)

theorem dependsOn_construction (access name : String) :
    DependsOn (fun names => construction names access name cls layout) (Uses ctx cls layout) := by
  intro names renamed same
  cases owned : ownsReference layout with
  | true =>
    have call : ∀ function ∈ rootCalls,
        names (.function function) = renamed (.function function) :=
      fun function member => same _ (.rootCall owned member)
    simp only [rootCalls, List.forall_mem_cons] at call
    obtain ⟨addRef, release, hasOneRef, hasAtLeastOneRef, _⟩ := call
    simp only [construction, refCountedMembers, rootCall, addRef, release, hasOneRef,
      hasAtLeastOneRef]
  | false =>
    simp only [ownsReference, Bool.and_eq_false_iff] at owned
    rcases owned with derived | uncounted
    · simp only [construction, derived, Bool.false_eq_true, if_false]
    · simp only [construction, uncounted, Bool.false_eq_true, if_false]

theorem dependsOn_body :
    DependsOn (fun names => body names ctx cls layout) (Uses ctx cls layout) := by
  intro names renamed same
  let name := ctx.wrapperName cls
  have constructed (access : String) : construction names access name cls layout =
      construction renamed access name cls layout :=
    dependsOn_construction access name names renamed same
  have statics : ∀ sig ∈ ctx.naming.classStatics cls,
      .blank :: Code.documentation sig.comment ++
          staticForwarder names name layout.abiName sig =
        .blank :: Code.documentation sig.comment ++
          staticForwarder renamed name layout.abiName sig := by
    intro sig member
    rw [staticForwarder, staticForwarder, same _ (.classStatic member)]
  have slots : ∀ slot ∈ layout.declaredSlots,
      .blank :: Code.documentation slot.signature.comment ++
          instanceForwarder names name layout.abiName (selfExpression layout) slot.signature =
        .blank :: Code.documentation slot.signature.comment ++
          instanceForwarder renamed name layout.abiName (selfExpression layout) slot.signature := by
    intro slot member
    rw [instanceForwarder, instanceForwarder, same _ (.declaredSlot member)]
  simp only [body]
  rw [constructed, List.flatMap_congr statics, List.flatMap_congr slots]

/-- The statement that makes a call holds the call. -/
theorem callStatement_eq (sig : Signature) (name interface call : String) :
    ∃ before after, callStatement sig name interface call = .line (before ++ call ++ after) := by
  unfold callStatement
  split
  · exact ⟨"", ";", by simp [toString]⟩
  · split
    · exact ⟨s!"return {name}.FromNativeOrNull(", ");", rfl⟩
    · exact ⟨"return ", ";", rfl⟩

/-- A member that makes a call refers to the function that it calls. -/
theorem writes_call (sig : Signature) (heading name interface called arguments : String)
    (member : FlatMember) :
    ∃ line, (Code.block heading
        [callStatement sig name interface s!"{interface}.{called}({arguments})"]).Writes line ∧
      ReferenceThrough interface member called line := by
  obtain ⟨before, after, statement⟩ :=
    callStatement_eq sig name interface s!"{interface}.{called}({arguments})"
  refine ⟨before ++ s!"{interface}.{called}({arguments})" ++ after, ?_, before,
    s!"({arguments}){after}", ?_⟩
  · simp only [statement, Code.writes_block, Code.writes_cons_line, true_or, or_true]
  · simp only [toString, String.append_assoc]

/-- A class that owns a reference has a line for each function of the root. -/
theorem writes_refCountedMembers (names : MemberNames) (name interface : String)
    {function : String} (member : function ∈ rootCalls) :
    ∃ line, (refCountedMembers names name interface).Writes line ∧
      ReferenceThrough interface (.function function) (names (.function function)) line := by
  have query (function : String) :
      ReferenceThrough interface (.function function) (names (.function function))
        ("get " ++ Code.inBraces s!"return {rootCall names interface function} != 0;") := by
    refine ⟨"get " ++ "\x7b " ++ "return ", "(_self)" ++ " != 0;" ++ " \x7d", ?_⟩
    simp only [Code.inBraces, rootCall, toString, String.append_assoc]
  simp only [rootCalls, List.mem_cons, List.not_mem_nil, or_false] at member
  rcases member with rfl | rfl | rfl | rfl
  · refine ⟨rootCall names interface "add_ref" ++ ";", by simp [refCountedMembers],
      "", "(_self);", ?_⟩
    simp [rootCall, toString, String.append_assoc]
  · refine ⟨"return " ++ rootCall names interface "release" ++ " != 0;",
      by simp [refCountedMembers], "return ", "(_self) != 0;", ?_⟩
    simp [rootCall, toString, String.append_assoc]
  · exact ⟨_, by simp [refCountedMembers], query "has_one_ref"⟩
  · exact ⟨_, by simp [refCountedMembers], query "has_at_least_one_ref"⟩

theorem writes_staticForwarder (names : MemberNames) (name interface : String) (sig : Signature) :
    ∃ line, (staticForwarder names name interface sig).Writes line ∧
      ReferenceThrough interface (.function sig.targetName) (names (.function sig.targetName))
        line :=
  writes_call sig _ name interface _ _ _

theorem writes_instanceForwarder (names : MemberNames) (name interface self : String)
    (sig : Signature) :
    ∃ line, (instanceForwarder names name interface self sig).Writes line ∧
      ReferenceThrough interface (.function sig.targetName) (names (.function sig.targetName))
        line :=
  writes_call sig _ name interface _ _ _

/-- The class has a line for each member that it uses. -/
theorem writes_of_uses {member : FlatMember} (used : Uses ctx cls layout member)
    (names : MemberNames) : ∃ line, (body names ctx cls layout).Writes line ∧
      ReferenceThrough layout.abiName member (names member) line := by
  let name := ctx.wrapperName cls
  cases used with
  | @rootCall function owned member =>
    obtain ⟨child, counted⟩ := Bool.and_eq_true_iff.mp owned
    obtain ⟨line, written, refers⟩ := writes_refCountedMembers names name layout.abiName member
    have inBody : (body names ctx cls layout).Writes line := by
      simp [body, construction, child, counted, written, name]
    exact ⟨line, inBody, refers⟩
  | @classStatic sig member =>
    obtain ⟨line, written, refers⟩ := writes_staticForwarder names name layout.abiName sig
    have inStatics : Code.Writes ((ctx.naming.classStatics cls).flatMap fun sig =>
        .blank :: Code.documentation sig.comment ++
          staticForwarder names name layout.abiName sig) line :=
      Code.writes_flatMap.mpr ⟨sig, member, Code.writes_append.mpr (.inr written)⟩
    have inBody : (body names ctx cls layout).Writes line := by
      simp only [body, Code.writes_concat, List.exists_mem_cons_iff, inStatics, name, true_or,
        or_true]
    exact ⟨line, inBody, refers⟩
  | @declaredSlot slot member =>
    obtain ⟨line, written, refers⟩ := writes_instanceForwarder names name layout.abiName
      (selfExpression layout) slot.signature
    have inSlots : Code.Writes (layout.declaredSlots.flatMap fun slot =>
        .blank :: Code.documentation slot.signature.comment ++
          instanceForwarder names name layout.abiName (selfExpression layout) slot.signature)
        line :=
      Code.writes_flatMap.mpr ⟨slot, member, Code.writes_append.mpr (.inr written)⟩
    have inBody : (body names ctx cls layout).Writes line := by
      simp only [body, Code.writes_concat, List.exists_mem_cons_iff, inSlots, name, true_or,
        or_true]
    exact ⟨line, inBody, refers⟩

end ProxyClass

namespace Wrapper

variable {ctx : Context} {cls : NativeClass} {layout : Layout}

/-- The wrapper class of a class, under given names for the members of its flat struct. -/
def partUnder (names : MemberNames) (ctx : Context) (cls : NativeClass) (layout : Layout) : Code :=
  if (ctx.role cls).isProxy then
    Code.block (ProxyClass.heading ctx cls layout) (ProxyClass.body names ctx cls layout)
  else if (ctx.role cls).isHandler then
    Code.block (HandlerClass.heading ctx cls) (HandlerClass.body names ctx cls layout)
  else []

/-- The wrapper file of a class, under given names for the members of its flat struct. -/
def fileUnder (names : MemberNames) (ctx : Context) (cls : NativeClass) (layout : Layout) : Code :=
  fileWith ctx cls (partUnder names ctx cls layout)

theorem fileUnder_name : fileUnder FlatMember.name ctx cls layout = file ctx cls layout := rfl

/-- What the wrapper file of a class uses of its flat struct. -/
def Uses (ctx : Context) (cls : NativeClass) (layout : Layout) (member : FlatMember) : Prop :=
  if (ctx.role cls).isProxy then ProxyClass.Uses ctx cls layout member
  else (ctx.role cls).isHandler = true ∧ HandlerClass.Uses layout member

/-- Whether the wrapper file of a class refers to a member of its flat struct: whatever the members
are called, the text of the file has a line with the name of the member behind that of the
struct. -/
def RefersTo (ctx : Context) (cls : NativeClass) (layout : Layout) (member : FlatMember) : Prop :=
  Shows (ReferenceThrough layout.abiName) (fun names => fileUnder names ctx cls layout) member

theorem dependsOn_fileUnder :
    DependsOn (fun names => fileUnder names ctx cls layout) (Uses ctx cls layout) := by
  intro names renamed same
  have parts : partUnder names ctx cls layout = partUnder renamed ctx cls layout := by
    unfold partUnder
    unfold Uses at same
    split
    · next callsOut =>
      simp only [callsOut, if_true] at same
      exact congrArg _ (ProxyClass.dependsOn_body names renamed same)
    · next noProxy =>
      split
      · next calledBack =>
        simp only [noProxy, calledBack, true_and, Bool.false_eq_true, if_false] at same
        exact congrArg _ (HandlerClass.dependsOn_body names renamed same)
      · rfl
  simp only [fileUnder, parts]

theorem writes_partUnder_of_uses {member : FlatMember} (used : Uses ctx cls layout member)
    (names : MemberNames) :
    ∃ line, (partUnder names ctx cls layout).Writes line ∧
      ReferenceThrough layout.abiName member (names member) line := by
  unfold Uses at used
  split at used
  · next callsOut =>
    obtain ⟨line, written, refers⟩ := ProxyClass.writes_of_uses used names
    refine ⟨line, ?_, refers⟩
    simp only [partUnder, callsOut, if_true, Code.writes_block]
    exact .inr written
  · next noProxy =>
    obtain ⟨calledBack, used⟩ := used
    obtain ⟨line, written, refers⟩ := HandlerClass.writes_of_uses used names
    refine ⟨line, ?_, refers⟩
    simp only [partUnder, noProxy, calledBack, Bool.false_eq_true, if_true, if_false,
      Code.writes_block]
    exact .inr written

theorem writes_of_uses {member : FlatMember} (used : Uses ctx cls layout member)
    (names : MemberNames) :
    ∃ line, (fileUnder names ctx cls layout).Writes line ∧
      ReferenceThrough layout.abiName member (names member) line := by
  obtain ⟨line, written, refers⟩ := writes_partUnder_of_uses used names
  refine ⟨line, ?_, refers⟩
  rw [fileUnder, fileWith, Code.writes_sourceFile, Code.writes_append]
  exact .inr (.inr written)

/-- A wrapper file refers to the members that its class uses. -/
theorem refersTo_iff {member : FlatMember} :
    RefersTo ctx cls layout member ↔ Uses ctx cls layout member :=
  shows_iff (ReferenceThrough.holdsName layout.abiName) dependsOn_fileUnder
    fun _ used names => writes_of_uses used names

/-- The wrapper file refers to a member by its own name. -/
theorem RefersTo.hasLine {member : FlatMember} (refers : RefersTo ctx cls layout member) :
    (file ctx cls layout).HasLine (ReferenceThrough layout.abiName) member member.name := by
  rw [← fileUnder_name]
  exact refers FlatMember.name

end Wrapper

end Bindery
