import Mathlib.Data.Nat.Digits.Defs
import Bindery.Proofs.Generator.Roles
import Bindery.Proofs.Keys
import Bindery.Proofs.Layout.Extension
import Bindery.Proofs.Source.Fields

/-! # How slots are wired

A handler keeps a delegate for each slot in a field of its own, which is called by the number of the
slot, and its constructor puts the delegates into the flat struct. Main statements: each of these
fields is declared by one row of the file (`Wrapper.filter_rows_handler`); the rows of the
constructor are found by its heading (`Wrapper.bodyOf_constructor`); and those of them that make a
delegate or set a field are two for each slot, in slot order
(`HandlerClass.filter_rows_constructorBody`).
-/

namespace Bindery

/-! ## Numbers of slots -/

theorem exists_digitChar_of_mem_toDigits {c : Char} {n : Nat} (member : c ∈ Nat.toDigits 16 n) :
    ∃ digit < 16, c = Nat.digitChar digit := by
  induction n using Nat.strongRecOn with
  | ind n ih =>
    rcases Nat.lt_or_ge n 16 with small | large
    · rw [Nat.toDigits_of_lt_base small, List.mem_singleton] at member
      exact ⟨n, small, member⟩
    · rw [Nat.toDigits_of_base_le (by decide) large, List.mem_append, List.mem_singleton] at member
      rcases member with front | rfl
      · exact ih (n / 16) (by omega) front
      · exact ⟨n % 16, Nat.mod_lt n (by decide), rfl⟩

/-- A character that is no hexadecimal digit does not occur in a number. -/
theorem not_mem_toDigits {c : Char} (other : ∀ digit < 16, c ≠ Nat.digitChar digit) (n : Nat) :
    c ∉ Nat.toDigits 16 n := by
  intro member
  obtain ⟨digit, small, same⟩ := exists_digitChar_of_mem_toDigits member
  exact other digit small same

/-- Numbers are told apart by their hexadecimal digits. -/
theorem eq_of_toDigits_eq {m n : Nat} (same : Nat.toDigits 16 m = Nat.toDigits 16 n) : m = n := by
  have digits : ∀ a < 16, ∀ b < 16, Nat.digitChar a = Nat.digitChar b → a = b := by decide
  induction m using Nat.strongRecOn generalizing n with
  | ind m ih =>
    have front : ∀ k, Nat.toDigits 16 k ≠ [] := fun k => Nat.toDigits_ne_nil
    rcases Nat.lt_or_ge m 16 with small | large <;> rcases Nat.lt_or_ge n 16 with less | more
    · rw [Nat.toDigits_of_lt_base small, Nat.toDigits_of_lt_base less] at same
      exact digits m small n less (List.singleton_inj.mp same)
    · rw [Nat.toDigits_of_lt_base small, Nat.toDigits_of_base_le (by decide) more] at same
      exact absurd (List.append_eq_singleton_iff.mp same.symm) (by simp [front])
    · rw [Nat.toDigits_of_lt_base less, Nat.toDigits_of_base_le (by decide) large] at same
      exact absurd (List.append_eq_singleton_iff.mp same) (by simp [front])
    · rw [Nat.toDigits_of_base_le (by decide) large, Nat.toDigits_of_base_le (by decide) more]
        at same
      obtain ⟨higher, lowest⟩ := List.append_inj' same rfl
      have quotient := ih (m / 16) (by omega) higher
      have remainder := digits (m % 16) (Nat.mod_lt m (by decide)) (n % 16)
        (Nat.mod_lt n (by decide)) (List.singleton_inj.mp lowest)
      omega

namespace Signature

theorem toList_delegateSlot (sig : Signature) :
    sig.delegateSlot.toList = '_' :: 'd' :: 's' :: Nat.toDigits 16 sig.slot := by
  simp [delegateSlot, slotId, toString]

theorem not_mem_delegateSlot {c : Char} (other : ∀ digit < 16, c ≠ Nat.digitChar digit)
    (start : c ∉ ['_', 'd', 's']) (sig : Signature) : c ∉ sig.delegateSlot.toList := by
  have digits := not_mem_toDigits other sig.slot
  rw [toList_delegateSlot]
  simpa [digits] using start

theorem slot_eq_of_delegateSlot_eq {a b : Signature} (same : a.delegateSlot = b.delegateSlot) :
    a.slot = b.slot := by
  have texts := congrArg String.toList same
  simp only [toList_delegateSlot, List.cons.injEq, true_and] at texts
  exact eq_of_toDigits_eq texts

end Signature

/-! ## Reading delegate fields and statements -/

/-- The last word of a text. -/
def lastWord (text : List Char) : List Char := (text.reverse.takeWhile (· ≠ ' ')).reverse

/-- Whether a text declares a field with a name, and gives it no value. -/
def declaresField (name : String) (text : List Char) : Bool :=
  memberWords.any (fun word => word.toList.isPrefixOf text) &&
    match Text.before? [';'] text with
    | some declaration => lastWord declaration == name.toList
    | none => false

/-- Whether a text sets a field that keeps a delegate, or a field of the flat struct. -/
def fillsSlot (text : List Char) : Bool :=
  "_ds".toList.isPrefixOf text || "_self->".toList.isPrefixOf text

theorem lastWord_append {name : List Char} (oneWord : ' ' ∉ name) (front : List Char) :
    lastWord (front ++ ' ' :: name) = name := by
  have word : ∀ c ∈ name.reverse, decide (c ≠ ' ') = true := fun c member => by
    have inside : c ∈ name := List.mem_reverse.mp member
    exact decide_eq_true fun blank => oneWord (blank ▸ inside)
  rw [lastWord, List.reverse_append, List.reverse_cons, List.append_assoc,
    List.takeWhile_append_of_pos word]
  simp

theorem mem_lastWord_concat {c : Char} (letter : c ≠ ' ') (front : List Char) :
    c ∈ lastWord (front ++ [c]) := by
  simp [lastWord, letter]

theorem declaresField_eq_false {name : String} {text : List Char}
    (goesOn : text.getLast? ≠ some ';') : declaresField name text = false := by
  rw [declaresField, Bool.and_eq_false_iff]
  right
  split
  · next declaration found =>
    rw [Text.before?_eq_some_iff] at found
    exact absurd (found ▸ List.getLast?_concat) goesOn
  · rfl

/-- Nothing is declared by members that do not end there. -/
theorem lacks_of_goesOn {name : String} {code : Code}
    (goesOn : ∀ line ∈ Code.surface 0 code, line.toList.getLast? ≠ some ';') :
    Code.Lacks (declaresField name) code :=
  fun line member => declaresField_eq_false (goesOn line member)

/-- A member that ends a declaration declares the field that its last word names. -/
theorem declaresField_concat (name : String) (declaration : List Char) :
    declaresField name (declaration ++ [';']) =
      (memberWords.any (fun word => word.toList.isPrefixOf (declaration ++ [';'])) &&
        lastWord declaration == name.toList) := by
  rw [declaresField, before?_concat]

/-- A declaration whose last word has a character that a name lacks is not one of that name. -/
theorem declaresField_eq_false_of_mem {name : String} {declaration : List Char} {c : Char}
    (inside : c ∈ lastWord declaration) (absent : c ∉ name.toList) :
    declaresField name (declaration ++ [';']) = false := by
  have differ : (lastWord declaration == name.toList) = false :=
    beq_eq_false_iff_ne.mpr fun same => absent (same ▸ inside)
  rw [declaresField_concat, differ, Bool.and_false]

namespace HandlerClass

variable {names : MemberNames} {ctx : Context} {cls : NativeClass} {layout : Layout}

theorem wellNested_fields (name : String) : (fields name layout).WellNested := by
  unfold fields
  grind

theorem wellNested_reverseLookup (name interface : String) (refCounted : Bool) :
    (reverseLookup name interface refCounted).WellNested := by
  unfold reverseLookup
  grind

/-- What the constructor does. -/
def constructorBody (names : MemberNames) (layout : Layout) : Code :=
  Code.concat [
    [ .line s!"_self = {layout.abiName}.{names .alloc}();", .blank ],
    layout.slots.flatMap fun slot => slotAssignment names layout.abiName slot.signature,
    if layout.root = .scoped then
      [ .blank, .line (whileRootsLocked "_roots.Add((IntPtr)_self, this);") ]
    else [] ]

theorem construction_eq (name : String) : construction names name layout =
    Code.spacedBlock s!"protected {name}()" (constructorBody names layout) := rfl

theorem wellNested_constructorBody : (constructorBody names layout).WellNested := by
  unfold constructorBody slotAssignment
  grind

theorem wellNested_disposal (name interface : String) :
    (disposal names name interface).WellNested := by
  unfold disposal
  grind

theorem wellNested_refCountedMembers (interface : String) (disposesItself : Bool) :
    (refCountedMembers interface disposesItself).WellNested := by
  unfold refCountedMembers
  refine .concat ?_
  simp only [List.forall_mem_cons]
  exact ⟨.spaced (.braced (.braced (.line (.braced (.plain rfl))))),
    .spaced (.braced (.braced (by grind))), .spaced (.plain rfl), .spaced (.plain rfl), by simp⟩

theorem wellNested_scopedMembers (interface : String) : (scopedMembers interface).WellNested := by
  unfold scopedMembers
  grind

theorem wellNested_selfReference : (selfReference layout).WellNested := by
  unfold selfReference
  grind

theorem wellNested_documentation (comment : List String) :
    (Code.documentation comment).WellNested := by
  unfold Code.documentation
  grind

theorem wellNested_thunk (sig : Signature) : (thunk sig).WellNested := by
  unfold thunk
  grind [wellNested_documentation]

/-! ### The surface of the wrapper class -/

/-- The member that keeps the objects the native side knows. -/
def rootsMember (name : String) : String :=
  s!"private static Dictionary<IntPtr, {name}> _roots = new Dictionary<IntPtr, {name}>();"

theorem exists_toList_rootsMember (name : String) : ∃ front : List Char,
    (rootsMember name).toList = (front ++ [')']) ++ [';'] := by
  unfold rootsMember
  let front :=
    s!"private static Dictionary<IntPtr, {name}> _roots = new Dictionary<IntPtr, {name}>("
  refine ⟨front.toList, ?_⟩
  simp [front, toString]

theorem surface_fields (name : String) : Code.surface 0 (fields name layout) =
    rootsMember name ::
      (if layout.isRefCounted then ["private int _refct;"] else []) ++ [
        s!"private {layout.abiName}* _self;",
        "private int _disposed;",
        "protected object SyncRoot \x7b get \x7b return this; \x7d \x7d"] := by
  unfold fields
  cases layout.isRefCounted <;> rfl

theorem surface_reverseLookup (name interface : String) (refCounted : Bool) :
    Code.surface 0 (reverseLookup name interface refCounted) = [
      s!"internal static {name} FromNativeOrNull({interface}* ptr)",
      s!"internal static {name} FromNative({interface}* ptr)"] := by
  cases refCounted <;> rfl

theorem surface_disposal (name interface : String) :
    Code.surface 0 (disposal names name interface) =
      [s!"~{name}()", "private void Dispose()", "protected virtual void Dispose(bool disposing)"] :=
  rfl

theorem surface_refCountedMembers (interface : String) (disposesItself : Bool) :
    Code.surface 0 (refCountedMembers interface disposesItself) = [
      s!"private void add_ref({interface}* self)",
      s!"private int release({interface}* self)",
      s!"private int has_one_ref({interface}* self)",
      s!"private int has_at_least_one_ref({interface}* self)"] := by
  cases disposesItself <;> rfl

theorem surface_scopedMembers (interface : String) :
    Code.surface 0 (scopedMembers interface) = [s!"private void del({interface}* self)"] := rfl

theorem surface_selfReference : Code.surface 0 (selfReference layout) = [
      s!"internal {layout.abiName}* ToNative()",
      "[Conditional(\"DEBUG\")]",
      s!"private void CheckSelf({layout.abiName}* self)"] := by
  unfold selfReference
  cases layout.isRefCounted <;> rfl

theorem surface_thunk (sig : Signature) : Code.surface 0 (thunk sig) =
    s!"private {sig.targetReturn} {sig.targetName}({sig.parameterList})" ::
      (Code.surface 0 (Code.documentation sig.comment) ++
        [s!"protected virtual {sig.targetReturn} {sig.name}({sig.instanceParameterList})"]) := by
  have result : (if sig.returnsVoid then [] else
      [.line s!"return default({sig.targetReturn});"] : Code).WellNested := by grind
  rw [thunk, Code.concat, List.flatten_cons, List.flatten_cons, List.flatten_singleton,
    Code.surface_append (.spaced (.plain rfl)), Code.surface_append (wellNested_documentation _),
    Code.surface_spacedBlock (.plain rfl), Code.surface_block result]
  rfl

theorem surface_documentation {comment : List String} {line : String}
    (member : line ∈ Code.surface 0 (Code.documentation comment)) :
    ∃ text : String, line = s!"/// {text}" := by
  unfold Code.documentation at member
  split at member
  · cases member
  · have lines := Code.surface_map (Code.keptComments comment) fun text => s!"/// {escapeXml text}"
    rw [Code.surface_append (by grind), Code.surface_append (by grind), lines] at member
    simp only [Code.surface, List.mem_append, List.mem_singleton, List.mem_map] at member
    obtain (rfl | ⟨text, _, rfl⟩) | rfl := member
    · exact ⟨"<summary>", rfl⟩
    · exact ⟨escapeXml text, rfl⟩
    · exact ⟨"</summary>", rfl⟩

/-! ### The members before the constructor, and those after it -/

/-- What the wrapper class has in front of its delegate fields. -/
def membersBefore (ctx : Context) (cls : NativeClass) (layout : Layout) : Code :=
  fields (ctx.wrapperName cls) layout ++
    (if ctx.classification.isReversible cls.name then
      reverseLookup (ctx.wrapperName cls) layout.abiName layout.isRefCounted else [])

/-- What the wrapper class has after its constructor. -/
def membersAfter (names : MemberNames) (ctx : Context) (cls : NativeClass) (layout : Layout) :
    Code :=
  disposal names (ctx.wrapperName cls) layout.abiName ++
    ((match layout.root with
      | .refCounted =>
        refCountedMembers layout.abiName (ctx.classification.disposesItself cls.name)
      | .scoped => scopedMembers layout.abiName) ++
    (selfReference layout ++ layout.ownSlots.flatMap fun slot => .blank :: thunk slot.signature))

/-- The delegate fields of the wrapper class. -/
def delegateFields (names : MemberNames) (layout : Layout) : Code :=
  layout.slots.map fun slot => delegateField names layout.abiName slot.signature

theorem body_eq : body names ctx cls layout =
    membersBefore ctx cls layout ++ (delegateFields names layout ++ ([Directive.blank] ++
      (construction names (ctx.wrapperName cls) layout ++ membersAfter names ctx cls layout))) := by
  unfold body membersAfter
  cases layout.root <;>
    simp only [membersBefore, delegateFields, Code.concat, List.flatten_cons, List.flatten_nil,
      List.append_nil, List.append_assoc]

theorem wellNested_membersBefore : (membersBefore ctx cls layout).WellNested := by
  unfold membersBefore
  grind [wellNested_fields, wellNested_reverseLookup]

theorem wellNested_delegateFields : (delegateFields names layout).WellNested := by
  unfold delegateFields delegateField
  grind

theorem wellNested_membersAfter : (membersAfter names ctx cls layout).WellNested := by
  unfold membersAfter
  grind [wellNested_disposal, wellNested_refCountedMembers, wellNested_scopedMembers,
    wellNested_selfReference, wellNested_thunk]

theorem wellNested_construction (name : String) : (construction names name layout).WellNested := by
  rw [construction_eq]
  exact wellNested_constructorBody.spaced

theorem wellNested_body : (body names ctx cls layout).WellNested := by
  rw [body_eq]
  grind [wellNested_membersBefore, wellNested_delegateFields, wellNested_construction,
    wellNested_membersAfter]

theorem lacks_documentation (name : String) (comment : List String) :
    Code.Lacks (declaresField name) (Code.documentation comment) := by
  intro line member
  obtain ⟨text, rfl⟩ := surface_documentation member
  simp [declaresField, memberWords, toString, List.isPrefixOf]

theorem lacks_thunk (name : String) (sig : Signature) :
    Code.Lacks (declaresField name) (thunk sig) := by
  rw [Code.Lacks, surface_thunk, List.forall_mem_cons, List.forall_mem_append]
  refine ⟨?_, lacks_documentation name sig.comment, ?_⟩
  · exact declaresField_eq_false (by simp [toString, List.getLast?_append, List.getLast?_cons])
  · rw [List.forall_mem_singleton]
    exact declaresField_eq_false (by simp [toString, List.getLast?_append, List.getLast?_cons])

theorem lacks_membersAfter (name : String) :
    Code.Lacks (declaresField name) (membersAfter names ctx cls layout) := by
  have disposed : Code.Lacks (declaresField name)
      (disposal names (ctx.wrapperName cls) layout.abiName) :=
    lacks_of_goesOn (by
      simp [surface_disposal, toString, List.getLast?_append, List.getLast?_cons])
  have passed : Code.Lacks (declaresField name) (selfReference layout) :=
    lacks_of_goesOn (by
      simp [surface_selfReference, toString, List.getLast?_append, List.getLast?_cons])
  have thunks : Code.Lacks (declaresField name)
      (layout.ownSlots.flatMap fun slot => .blank :: thunk slot.signature) :=
    .flatMap (fun slot _ => (wellNested_thunk slot.signature).blank)
      fun slot _ => lacks_thunk name slot.signature
  refine .append (wellNested_disposal _ _) disposed ?_
  cases layout.root
  · have counted : Code.Lacks (declaresField name) (refCountedMembers layout.abiName
        (ctx.classification.disposesItself cls.name)) :=
      lacks_of_goesOn (by
        simp [surface_refCountedMembers, toString, List.getLast?_append, List.getLast?_cons])
    exact .append (wellNested_refCountedMembers _ _) counted
      (.append wellNested_selfReference passed thunks)
  · have deleted : Code.Lacks (declaresField name) (scopedMembers layout.abiName) :=
      lacks_of_goesOn (by
        simp [surface_scopedMembers, toString, List.getLast?_append, List.getLast?_cons])
    exact .append (wellNested_scopedMembers _) deleted
      (.append wellNested_selfReference passed thunks)

theorem lacks_fields (sig : Signature) (name : String) :
    Code.Lacks (declaresField sig.delegateSlot) (fields name layout) := by
  have absent : ∀ c ∈ [')', 'r', 'l', 'i'], c ∉ sig.delegateSlot.toList := by
    intro c member
    fin_cases member <;> exact sig.not_mem_delegateSlot (by decide) (by decide)
  have roots : declaresField sig.delegateSlot (rootsMember name).toList = false := by
    obtain ⟨front, text⟩ := exists_toList_rootsMember name
    rw [text]
    have word : ')' ∈ lastWord (front ++ [')']) := mem_lastWord_concat (by decide) front
    exact declaresField_eq_false_of_mem word (absent ')' (by simp))
  have counter : declaresField sig.delegateSlot "private int _refct;".toList = false :=
    declaresField_eq_false_of_mem (by decide : 'r' ∈ lastWord "private int _refct".toList)
      (absent 'r' (by simp))
  have disposed : declaresField sig.delegateSlot "private int _disposed;".toList = false :=
    declaresField_eq_false_of_mem (by decide : 'i' ∈ lastWord "private int _disposed".toList)
      (absent 'i' (by simp))
  have self : declaresField sig.delegateSlot (s!"private {layout.abiName}* _self;").toList =
      false := by
    have split : (s!"private {layout.abiName}* _self;").toList =
        ((s!"private {layout.abiName}*").toList ++ ' ' :: "_self".toList) ++ [';'] := by
      simp [toString]
    have word : 'l' ∈ lastWord
        ((s!"private {layout.abiName}*").toList ++ ' ' :: "_self".toList) := by
      rw [lastWord_append (by decide)]
      decide
    rw [split]
    exact declaresField_eq_false_of_mem word (absent 'l' (by simp))
  have lock : declaresField sig.delegateSlot
      "protected object SyncRoot \x7b get \x7b return this; \x7d \x7d".toList = false :=
    declaresField_eq_false (by decide)
  rw [Code.Lacks, surface_fields]
  cases layout.isRefCounted <;>
    simp only [if_true, if_false, Bool.false_eq_true, List.nil_append, List.cons_append,
      List.forall_mem_cons, List.not_mem_nil, false_implies, implies_true, and_true, roots, counter,
      disposed, self, lock]

theorem lacks_membersBefore (sig : Signature) :
    Code.Lacks (declaresField sig.delegateSlot) (membersBefore ctx cls layout) := by
  refine .append (wellNested_fields _) (lacks_fields sig _) ?_
  split
  · exact lacks_of_goesOn (by
      simp [surface_reverseLookup, toString, List.getLast?_append, List.getLast?_cons])
  · exact .nil

/-- The member that keeps the delegate of a slot. -/
def delegateMember (names : MemberNames) (layout : Layout) (sig : Signature) : String :=
  s!"private {layout.abiName}.{names (.delegateType sig.delegateType)} {sig.delegateSlot};"

theorem surface_delegateFields : Code.surface 0 (delegateFields names layout) =
    layout.slots.map fun slot => delegateMember names layout slot.signature :=
  Code.surface_map layout.slots fun slot => delegateMember names layout slot.signature

theorem toList_delegateMember (sig : Signature) : (delegateMember names layout sig).toList =
    ((s!"private {layout.abiName}.{names (.delegateType sig.delegateType)}").toList ++
      ' ' :: sig.delegateSlot.toList) ++ [';'] := by
  unfold delegateMember
  simp [toString]

/-- The member for one slot declares the field of another one only if the fields are the same. -/
theorem isFlush_delegateMember (sig other : Signature) :
    Code.isFlush (declaresField sig.delegateSlot) (delegateMember names layout other).toList =
      decide (other.delegateSlot = sig.delegateSlot) := by
  have oneWord := other.not_mem_delegateSlot (c := ' ') (by decide) (by decide)
  have begins : memberWords.any (fun word =>
      word.toList.isPrefixOf (delegateMember names layout other).toList) = true := by
    unfold delegateMember
    simp [memberWords, toString, List.isPrefixOf]
  have flush : Code.isFlush (declaresField sig.delegateSlot)
      (delegateMember names layout other).toList =
        declaresField sig.delegateSlot (delegateMember names layout other).toList := by
    unfold delegateMember
    simp [toString, Code.isFlush]
  rw [toList_delegateMember] at begins
  rw [flush, toList_delegateMember, declaresField_concat, begins, Bool.true_and,
    lastWord_append oneWord, Bool.eq_iff_iff, beq_iff_eq, decide_eq_true_iff, String.toList_inj]

/-- Each delegate field is declared by one member. -/
theorem filter_surface_body {slot : Slot} (member : slot ∈ layout.slots)
    (distinct : (layout.slots.map fun slot => slot.signature.delegateSlot).Nodup) :
    (Code.surface 0 (body names ctx cls layout)).filter (fun line =>
      Code.isFlush (declaresField slot.signature.delegateSlot) line.toList) =
        [delegateMember names layout slot.signature] := by
  have constructed : Code.Lacks (declaresField slot.signature.delegateSlot)
      (construction names (ctx.wrapperName cls) layout) := by
    rw [construction_eq]
    exact lacks_of_goesOn (by
      simp [Code.surface_spacedBlock wellNested_constructorBody, toString, List.getLast?_append,
        List.getLast?_cons])
  have others : Code.Lacks (declaresField slot.signature.delegateSlot) ([Directive.blank] ++
      (construction names (ctx.wrapperName cls) layout ++ membersAfter names ctx cls layout)) :=
    .append (.plain rfl) .nil
      (.append (wellNested_construction _) constructed (lacks_membersAfter _))
  have own : ((fun line : String => Code.isFlush (declaresField slot.signature.delegateSlot)
      line.toList) ∘ fun slot : Slot => delegateMember names layout slot.signature) =
        fun other => decide (other.signature.delegateSlot = slot.signature.delegateSlot) := by
    simp only [Function.comp_def, isFlush_delegateMember]
  rw [body_eq, Code.surface_append wellNested_membersBefore,
    Code.surface_append wellNested_delegateFields, List.filter_append, List.filter_append,
    (lacks_membersBefore slot.signature).filter_eq, others.filter_eq, surface_delegateFields,
    List.filter_map, own, filter_key_eq member distinct]
  rfl

/-! ### The statements of the constructor -/

theorem lacks_heading (name : String) :
    Code.Lacks (· == (s!"protected {name}()").toList)
      (membersBefore ctx cls layout ++ (delegateFields names layout ++ [Directive.blank])) := by
  have property : ("protected object SyncRoot \x7b get \x7b return this; \x7d \x7d".toList ==
      (s!"protected {name}()").toList) = false := by
    rw [beq_eq_false_iff_ne]
    intro same
    have last := congrArg List.getLast? same
    simp [toString, List.getLast?_append, List.getLast?_cons] at last
  have fields : Code.Lacks (· == (s!"protected {name}()").toList)
      (fields (ctx.wrapperName cls) layout) := by
    rw [Code.Lacks, surface_fields]
    simp only [List.cons_append, List.forall_mem_cons, List.forall_mem_append]
    refine ⟨?_, ?_, by simp [toString], by simp [toString], property, by simp⟩
    · unfold rootsMember
      simp [toString]
    split
    · simp [toString]
    · simp
  have found : Code.Lacks (· == (s!"protected {name}()").toList)
      (if ctx.classification.isReversible cls.name then
        reverseLookup (ctx.wrapperName cls) layout.abiName layout.isRefCounted else []) := by
    split
    · simp [Code.Lacks, surface_reverseLookup, toString]
    · exact .nil
  have kept : Code.Lacks (· == (s!"protected {name}()").toList) (delegateFields names layout) := by
    simp [Code.Lacks, surface_delegateFields, toList_delegateMember, toString]
  refine .append wellNested_membersBefore (.append (wellNested_fields _) fields found) ?_
  exact .append wellNested_delegateFields kept fun line member => absurd member List.not_mem_nil

/-- The constructor's block stands in the class, after members with other headings. -/
theorem exists_rows_body (names : MemberNames) (ctx : Context) (cls : NativeClass)
    (layout : Layout) : ∃ before after,
    Code.rows 2 (body names ctx cls layout) =
      before ++ Code.rows 2 (Code.block s!"protected {ctx.wrapperName cls}()"
        (constructorBody names layout)) ++ after ∧
    ∀ text ∈ before, Code.standsAt 2
      (· == (s!"protected {ctx.wrapperName cls}()").toList) text = false := by
  let front := membersBefore ctx cls layout ++ (delegateFields names layout ++ [Directive.blank])
  have nested : front.WellNested :=
    wellNested_membersBefore.append (wellNested_delegateFields.append (.plain rfl))
  have parts : body names ctx cls layout =
      front ++ (Code.block s!"protected {ctx.wrapperName cls}()" (constructorBody names layout) ++
        (.blank :: membersAfter names ctx cls layout)) := by
    rw [body_eq, construction_eq]
    simp [front, Code.spacedBlock]
  refine ⟨Code.rows 2 front, Code.rows 2 (.blank :: membersAfter names ctx cls layout), ?_, ?_⟩
  · rw [parts, Code.rows_append nested, Code.rows_append wellNested_constructorBody.braced,
      List.append_assoc]
  · intro text member
    refine (lacks_heading (ctx.wrapperName cls)).standsAt_eq_false nested ?_ ?_ member
    · simp [Code.openBrace, toString]
    · simp [Code.closeBrace, toString]

/-- A row that makes the delegate of a slot. -/
def constructionRow (layout : Layout) (sig : Signature) : String :=
  Code.row 3 s!"{sig.delegateSlot} = new {layout.abiName}.{sig.delegateType}({sig.targetName});"

/-- A row that stores the address of a slot's delegate. -/
def storeRow (sig : Signature) : String :=
  Code.row 3 s!"_self->{sig.fieldName} = Marshal.GetFunctionPointerForDelegate({sig.delegateSlot});"

/-- The row that roots a scoped object. -/
def rootingRow : String := Code.row 3 (whileRootsLocked "_roots.Add((IntPtr)_self, this);")

/-- The rows of the constructor: it allocates, fills the slots one after the other, and roots a
scoped object. -/
theorem rows_constructorBody : Code.rows 3 (constructorBody FlatMember.name layout) =
    [Code.row 3 s!"_self = {layout.abiName}.{FlatMember.name .alloc}();", ""] ++
      (layout.slots.flatMap fun slot =>
        [constructionRow layout slot.signature, storeRow slot.signature]) ++
      (if layout.root = .scoped then ["", rootingRow] else []) := by
  have filling : ∀ slot ∈ layout.slots,
      (slotAssignment FlatMember.name layout.abiName slot.signature).WellNested :=
    fun slot _ => .plain rfl
  have nested : ∀ part ∈ [
      [Directive.line s!"_self = {layout.abiName}.{FlatMember.name .alloc}();", .blank],
      layout.slots.flatMap fun slot =>
        slotAssignment FlatMember.name layout.abiName slot.signature,
      if layout.root = .scoped then
        [.blank, .line (whileRootsLocked "_roots.Add((IntPtr)_self, this);")] else []],
      Code.WellNested part := by
    simp only [List.forall_mem_cons]
    exact ⟨.plain rfl, .flatMap filling, by split <;> exact .plain rfl, by simp⟩
  rw [constructorBody, Code.rows_concat nested, List.flatMap_cons, List.flatMap_cons,
    List.flatMap_cons, List.flatMap_nil, Code.rows_flatMap filling, List.append_nil,
    List.append_assoc, apply_ite (Code.rows 3)]
  rfl

/-- The constructor fills the slots, and nothing else. -/
theorem filter_rows_constructorBody :
    (Code.rows 3 (constructorBody FlatMember.name layout)).filter (Code.standsAt 3 fillsSlot) =
      layout.slots.flatMap fun slot =>
        [constructionRow layout slot.signature, storeRow slot.signature] := by
  have allocated : Code.standsAt 3 fillsSlot
      (Code.row 3 s!"_self = {layout.abiName}.{FlatMember.name .alloc}();") = false := by
    rw [Code.standsAt_row]
    simp [Code.isFlush, fillsSlot, toString, List.isPrefixOf]
  have rooted : Code.standsAt 3 fillsSlot rootingRow = false := by
    rw [rootingRow, Code.standsAt_row]
    decide
  have made (sig : Signature) : Code.standsAt 3 fillsSlot (constructionRow layout sig) = true := by
    rw [constructionRow, Code.standsAt_row]
    simp [Code.isFlush, fillsSlot, toString, List.isPrefixOf, Signature.toList_delegateSlot]
  have stored (sig : Signature) : Code.standsAt 3 fillsSlot (storeRow sig) = true := by
    rw [storeRow, Code.standsAt_row]
    simp [Code.isFlush, fillsSlot, toString, List.isPrefixOf]
  have last : (if layout.root = .scoped then ["", rootingRow] else []).filter
      (Code.standsAt 3 fillsSlot) = [] := by
    split <;> simp [rooted, Code.standsAt_empty]
  rw [rows_constructorBody, List.filter_append, List.filter_append, last, List.append_nil,
    List.filter_cons_of_neg (by simp [allocated]),
    List.filter_cons_of_neg (by simp [Code.standsAt_empty]), List.filter_nil, List.nil_append,
    List.filter_flatMap]
  refine List.flatMap_congr fun slot _ => ?_
  simp only [List.filter_cons, made, stored, if_true, List.filter_nil]

theorem flush_heading (ctx : Context) (cls : NativeClass) : Code.Flush (heading ctx cls) := by
  unfold heading
  simp [Code.Flush, Code.isFlush, toString]

end HandlerClass

namespace Wrapper

variable {ctx : Context} {cls : NativeClass} {layout : Layout}

/-- What the file of a wrapper has in front of the class. -/
def preamble (ctx : Context) (cls : NativeClass) : Code :=
  Code.usings ["System", "System.Collections.Generic", "System.Diagnostics",
    "System.Runtime.InteropServices", "System.Threading", ctx.settings.interopNamespace] ++
  ((ctx.classification.overview cls.name).map fun text => Directive.line s!"// {text}") ++
  Code.documentation cls.comment

theorem preamble_lines (ctx : Context) (cls : NativeClass) : Code.Preamble (preamble ctx cls) := by
  have documented : Code.Preamble (Code.documentation cls.comment) := by
    unfold Code.documentation
    split
    · simp [Code.Preamble]
    · intro directive member
      simp only [List.mem_append, List.mem_singleton, List.mem_map] at member
      obtain (rfl | ⟨text, _, rfl⟩) | rfl := member
      · exact .inr ⟨_, rfl, rfl⟩
      · exact .inr ⟨_, rfl, by simp [Code.Flush, Code.isFlush, toString]⟩
      · exact .inr ⟨_, rfl, rfl⟩
  rw [Code.Preamble, preamble, List.forall_mem_append]
  refine ⟨?_, documented⟩
  simp [Code.usings, Classification.overview, Code.Flush, Code.isFlush, toString]

theorem fileWith_handler_eq : fileWith ctx cls (HandlerClass.wrapper ctx cls layout) =
    Code.sourceFile ctx.settings.wrapperNamespace (preamble ctx cls ++
      Code.block (HandlerClass.heading ctx cls)
        (HandlerClass.body FlatMember.name ctx cls layout)) := rfl

/-- Each delegate field is declared by one row. -/
theorem filter_rows_handler {slot : Slot} (member : slot ∈ layout.slots)
    (distinct : (layout.slots.map fun slot => slot.signature.delegateSlot).Nodup) :
    (Code.rows 0 (fileWith ctx cls (HandlerClass.wrapper ctx cls layout))).filter
        (Code.standsAt 2 (declaresField slot.signature.delegateSlot)) =
      [Code.row 2 (HandlerClass.delegateMember FlatMember.name layout slot.signature)] := by
  have body : (HandlerClass.body FlatMember.name ctx cls layout).WellNested :=
    HandlerClass.wellNested_body
  rw [fileWith_handler_eq, Code.filter_rows_sourceFile (preamble_lines ctx cls) body
    (HandlerClass.flush_heading ctx cls) _ rfl rfl,
    HandlerClass.filter_surface_body member distinct]
  rfl

/-- The rows of the constructor are found by its heading. -/
theorem bodyOf_constructor :
    Code.bodyOf 2 s!"protected {ctx.wrapperName cls}()"
        (Code.rows 0 (fileWith ctx cls (HandlerClass.wrapper ctx cls layout))) =
      Code.rows 3 (HandlerClass.constructorBody FlatMember.name layout) := by
  have nested : (HandlerClass.body FlatMember.name ctx cls layout).WellNested :=
    HandlerClass.wellNested_body
  obtain ⟨before, after, file, outside⟩ := Code.exists_rows_sourceFile (preamble_lines ctx cls)
    nested (HandlerClass.flush_heading ctx cls) ctx.settings.wrapperNamespace
  obtain ⟨first, second, body, fresh⟩ :=
    HandlerClass.exists_rows_body FlatMember.name ctx cls layout
  have flush : Code.Flush s!"protected {ctx.wrapperName cls}()" := by
    simp [Code.Flush, Code.isFlush, toString]
  have unmet : ∀ text ∈ before ++ first, Code.standsAt 2
      (· == (s!"protected {ctx.wrapperName cls}()").toList) text = false := by
    intro text member
    rcases List.mem_append.mp member with earlier | inBody
    · exact outside text (List.mem_append_left after earlier) _
    · exact fresh text inBody
  have constructed : (HandlerClass.constructorBody FlatMember.name layout).WellNested :=
    HandlerClass.wellNested_constructorBody
  have found := Code.bodyOf_eq unmet (second ++ after) flush constructed
  rw [fileWith_handler_eq, file, body]
  simpa only [List.append_assoc] using found

end Wrapper

end Bindery
