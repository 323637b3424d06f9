import Bindery.Proofs.Layout.Shares
import Bindery.Proofs.Source.Wiring

/-! # The type of self

What native code calls for a slot of a handler first checks that it was called on the right object.
The check takes an object of the class itself, while the slot's function was declared with an object
of the class that declares it. Main statement: every slot below the root passes its object to a
check that takes an object of that type exactly when no class above declares a function
(`HandlerClass.selfChecked_iff`).
-/

namespace Bindery

namespace Code

/-- The headings of the blocks that begin with a statement. -/
def headingsOver (statement : String) : Code → List String
  | [] => []
  | directive :: rest =>
    (match directive with
      | .enter heading => if rest.head? = some (.line statement) then [heading] else []
      | _ => []) ++ headingsOver statement rest

variable {code first second body : Code} {heading statement : String}

/-- Lines have no blocks among them. -/
theorem headingsOver_plain (plain : code.all WellNested.plainDirective = true)
    (statement : String) : headingsOver statement code = [] := by
  induction code with
  | nil => rfl
  | cons directive rest ih =>
    obtain ⟨here, later⟩ := Bool.and_eq_true_iff.mp plain
    cases directive with
    | line => exact ih later
    | blank => exact ih later
    | _ => exact absurd here Bool.false_ne_true

/-- Whether a block begins with a statement is seen from its body, if nothing but the end of the
block follows an empty one. -/
theorem headingsOver_block_append
    (inside : ∀ rest, headingsOver statement (body ++ rest) =
      headingsOver statement body ++ headingsOver statement rest) (heading : String) (rest : Code) :
    headingsOver statement (block heading body ++ rest) =
      (if body.head? = some (.line statement) then [heading] else []) ++
        (headingsOver statement body ++ headingsOver statement rest) := by
  have first : (body ++ .leave :: rest).head? = some (.line statement) ↔
      body.head? = some (.line statement) := by
    cases body <;> simp
  have whole : block heading body ++ rest = .enter heading :: (body ++ .leave :: rest) := by
    simp [block]
  rw [whole, headingsOver, inside]
  simp only [first]
  rfl

theorem headingsOver_append (nested : WellNested first) (statement : String) (second : Code) :
    headingsOver statement (first ++ second) =
      headingsOver statement first ++ headingsOver statement second := by
  induction nested generalizing second with
  | nil => rfl
  | line _ ih => exact ih second
  | blank _ ih => exact ih second
  | block _ _ inside after =>
    rw [List.append_assoc, headingsOver_block_append inside, headingsOver_block_append inside,
      after]
    simp only [List.append_assoc]

theorem headingsOver_block (nested : WellNested body) (statement heading : String) :
    headingsOver statement (block heading body) =
      (if body.head? = some (.line statement) then [heading] else []) ++
        headingsOver statement body := by
  have alone := headingsOver_block_append (headingsOver_append nested statement) heading []
  rwa [List.append_nil, headingsOver, List.append_nil] at alone

theorem headingsOver_spacedBlock (nested : WellNested body) (statement heading : String) :
    headingsOver statement (spacedBlock heading body) =
      (if body.head? = some (.line statement) then [heading] else []) ++
        headingsOver statement body := by
  rw [spacedBlock, headingsOver_append nested.braced, headingsOver_block nested]
  exact List.append_nil _

theorem headingsOver_flatMap_eq_nil {α : Type} {items : List α} {part : α → Code}
    (nested : ∀ item ∈ items, WellNested (part item))
    (none : ∀ item ∈ items, headingsOver statement (part item) = []) :
    headingsOver statement (items.flatMap part) = [] := by
  induction items with
  | nil => rfl
  | cons item items ih =>
    obtain ⟨here, later⟩ := List.forall_mem_cons.mp nested
    obtain ⟨empty, others⟩ := List.forall_mem_cons.mp none
    rw [List.flatMap_cons, headingsOver_append here, empty, ih later others, List.nil_append]

end Code

namespace Signature

/-- A parameter list begins with the type of its first parameter. -/
theorem declared_cons (name : String) (others : List TargetParameter) :
    ∃ tail, ∀ type : String, declared (⟨type, name⟩ :: others) = type ++ tail := by
  cases others with
  | nil =>
    refine ⟨s!" {name}", fun type => ?_⟩
    simp [declared, Text.joined, TargetParameter.display, toString, String.append_assoc]
  | cons other others =>
    refine ⟨s!" {name}, {declared (other :: others)}", fun type => ?_⟩
    simp [declared, Text.joined, TargetParameter.display, toString, String.intercalate_cons_cons,
      String.append_assoc]

end Signature

namespace Layout

variable {naming : Naming} {cls owner : NativeClass} {ancestry : Ancestry} {f : NativeFunction}

/-- A slot below the root is one of a function that a class of the ancestry declares. -/
theorem exists_of_mem_ownSlots {slot : Slot}
    (member : slot ∈ (ofAncestry naming cls ancestry).ownSlots) :
    ∃ owner ∈ ancestry.chain, ∃ f ∈ owner.virtuals, ∃ index,
      slot = ⟨index, naming.virtualMethod f owner index⟩ := by
  rw [ownSlots_ofAncestry] at member
  obtain ⟨index, bound, rfl⟩ := List.mem_mapIdx.mp member
  obtain ⟨owner, inside, declared⟩ := List.mem_flatMap.mp (List.getElem_mem bound)
  obtain ⟨f, listed, same⟩ := List.mem_map.mp declared
  exact ⟨owner, inside, f, listed, _, by rw [← same]⟩

/-- Every function that a class of the ancestry declares has a slot. -/
theorem exists_mem_ownSlots (inside : owner ∈ ancestry.chain) (listed : f ∈ owner.virtuals) :
    ∃ index, ⟨index, naming.virtualMethod f owner index⟩ ∈
      (ofAncestry naming cls ancestry).ownSlots := by
  have method : (owner, f) ∈ methods ancestry.chain :=
    List.mem_flatMap.mpr ⟨owner, inside, List.mem_map_of_mem listed⟩
  obtain ⟨index, bound, same⟩ := List.getElem_of_mem method
  refine ⟨ancestry.root.capabilities.length + index, ?_⟩
  rw [ownSlots_ofAncestry]
  exact List.mem_mapIdx.mpr ⟨index, bound, by rw [same]⟩

end Layout

namespace HandlerClass

variable {ctx : Context} {cls : NativeClass} {layout : Layout}

/-- The statement that calls the check. -/
def checkCall : String := "CheckSelf(self);"

/-- The statement that the check consists of. -/
def selfComparison : String :=
  "if (_self != self) throw ExceptionBuilder.InvalidSelfReference();"

/-- The heading of what native code calls for a slot, with a type for the object. -/
def thunkHeading (sig : Signature) (type : String) : String :=
  let parameters := Signature.declared (⟨type, selfName⟩ :: sig.instanceParameters)
  s!"private {sig.targetReturn} {sig.targetName}({parameters})"

/-- The heading of the check, with a type for the object. -/
def checkHeading (type : String) : String := s!"private void CheckSelf({type} self)"

/-- What native code calls for a slot passes its object to the check of the class, which takes an
object of the same type. -/
structure SelfChecked (ctx : Context) (cls : NativeClass) (layout : Layout) (slot : Slot)
    (type : String) : Prop where
  emitted : thunk slot.signature <:+: body FlatMember.name ctx cls layout
  passed : Code.headingsOver checkCall (thunk slot.signature) =
    [thunkHeading slot.signature type]
  taken : Code.headingsOver selfComparison (body FlatMember.name ctx cls layout) =
    [checkHeading type]

/-! ## The one check of a class -/

theorem headingsOver_fields (name : String) :
    Code.headingsOver selfComparison (fields name layout) = [] := by
  apply Code.headingsOver_plain
  unfold fields
  cases layout.isRefCounted <;> rfl

theorem headingsOver_reverseLookup (name interface : String) (refCounted : Bool) :
    Code.headingsOver selfComparison (reverseLookup name interface refCounted) = [] := by
  have other : name ++ " value;" ≠ selfComparison := by
    intro same
    have last := congrArg (fun text => text.toList.reverse.take 2) same
    simp [selfComparison] at last
  rw [selfComparison] at other
  cases refCounted <;>
    simp [reverseLookup, Code.concat, Code.spacedBlock, Code.block, Code.headingsOver, toString,
      selfComparison, other]

theorem headingsOver_construction (names : MemberNames) (name : String) :
    Code.headingsOver selfComparison (construction names name layout) = [] := by
  have plain : (constructorBody names layout).all Code.WellNested.plainDirective = true := by
    unfold constructorBody slotAssignment
    split <;> simp [Code.concat, Code.WellNested.plainDirective]
  have other : (constructorBody names layout).head? ≠ some (.line selfComparison) := by
    intro same
    have start := congrArg (fun text => text.toList.head?)
      (Directive.line.inj (Option.some.inj same))
    simp [selfComparison, toString] at start
  rw [construction_eq, Code.headingsOver_spacedBlock wellNested_constructorBody, if_neg other,
    Code.headingsOver_plain plain]
  rfl

theorem headingsOver_disposal (names : MemberNames) (name interface : String) :
    Code.headingsOver selfComparison (disposal names name interface) = [] := by
  have other : interface ++ "." ++ names .free ++ "(_self);" ≠ selfComparison := by
    intro same
    have last := congrArg (fun text => text.toList.reverse.take 3) same
    simp [selfComparison] at last
  rw [selfComparison] at other
  simp [disposal, Code.concat, Code.spacedBlock, Code.block, Code.headingsOver, toString,
    selfComparison, other]

theorem headingsOver_refCountedMembers (interface : String) (disposesItself : Bool) :
    Code.headingsOver selfComparison (refCountedMembers interface disposesItself) = [] := by
  cases disposesItself <;>
    simp [refCountedMembers, Code.concat, Code.spacedBlock, Code.block, Code.headingsOver,
      Code.inBraces, toString, selfComparison]

theorem headingsOver_scopedMembers (interface : String) :
    Code.headingsOver selfComparison (scopedMembers interface) = [] := by
  simp [scopedMembers, Code.spacedBlock, Code.block, Code.headingsOver, toString, selfComparison]

theorem checkHeading_pointer (interface : String) :
    checkHeading s!"{interface}*" = s!"private void CheckSelf({interface}* self)" := by
  have ending : "*" ++ " self)" = "* self)" := by decide
  unfold checkHeading
  simp only [toString, String.append_assoc, ending]

theorem headingsOver_selfReference : Code.headingsOver selfComparison (selfReference layout) =
    [s!"private void CheckSelf({layout.abiName}* self)"] := by
  unfold selfReference
  cases layout.isRefCounted <;>
    simp [Code.concat, Code.spacedBlock, Code.block, Code.headingsOver, selfComparison]

/-- The thunk of a slot has two blocks: the thunk itself, which checks its object, and the method
that it calls, which at most returns a default. -/
theorem headingsOver_thunk {statement : String} (other : statement.toList.head? ≠ some 'r')
    (sig : Signature) : Code.headingsOver statement (thunk sig) =
      if checkCall = statement then
        [s!"private {sig.targetReturn} {sig.targetName}({sig.parameterList})"]
      else [] := by
  have comment : (Code.documentation sig.comment).all Code.WellNested.plainDirective = true := by
    unfold Code.documentation
    split <;> simp [Code.WellNested.plainDirective]
  have second : (if sig.returnsVoid then [] else
      [.line s!"return default({sig.targetReturn});"] : Code).head? ≠ some (.line statement) := by
    split
    · simp
    · intro same
      obtain rfl := Directive.line.inj (Option.some.inj same)
      simp [toString] at other
  have plain : (if sig.returnsVoid then [] else
      [.line s!"return default({sig.targetReturn});"] : Code).all Code.WellNested.plainDirective =
        true := by
    split <;> rfl
  rw [thunk, Code.concat, List.flatten_cons, List.flatten_cons, List.flatten_singleton,
    Code.headingsOver_append (.spaced (.plain rfl)),
    Code.headingsOver_append (wellNested_documentation _), Code.headingsOver_plain comment,
    Code.headingsOver_spacedBlock (.plain rfl), Code.headingsOver_block (.plain plain),
    if_neg second, Code.headingsOver_plain plain]
  simp only [List.head?_cons, Option.some.injEq, Directive.line.injEq, List.append_nil]
  exact List.append_nil _

/-- A class has one check, and it takes an object of the class itself. -/
theorem headingsOver_body (names : MemberNames) :
    Code.headingsOver selfComparison (body names ctx cls layout) =
      [checkHeading s!"{layout.abiName}*"] := by
  have before : Code.headingsOver selfComparison (membersBefore ctx cls layout) = [] := by
    rw [membersBefore, Code.headingsOver_append (wellNested_fields _), headingsOver_fields]
    split
    · exact headingsOver_reverseLookup _ _ _
    · rfl
  have delegates : Code.headingsOver selfComparison (delegateFields names layout) = [] := by
    apply Code.headingsOver_plain
    simp [delegateFields, delegateField, Code.WellNested.plainDirective]
  have thunks : Code.headingsOver selfComparison
      (layout.ownSlots.flatMap fun slot => .blank :: thunk slot.signature) = [] := by
    apply Code.headingsOver_flatMap_eq_nil fun slot _ => .blank (wellNested_thunk _)
    intro slot _
    exact (headingsOver_thunk (by decide) slot.signature).trans (if_neg (by decide))
  have own : Code.headingsOver selfComparison (selfReference layout ++
      layout.ownSlots.flatMap fun slot => .blank :: thunk slot.signature) =
        [checkHeading s!"{layout.abiName}*"] := by
    rw [Code.headingsOver_append wellNested_selfReference, headingsOver_selfReference, thunks,
      checkHeading_pointer]
    rfl
  have after : Code.headingsOver selfComparison (membersAfter names ctx cls layout) =
      [checkHeading s!"{layout.abiName}*"] := by
    rw [membersAfter, Code.headingsOver_append (wellNested_disposal _ _), headingsOver_disposal]
    split
    · rw [Code.headingsOver_append (wellNested_refCountedMembers _ _),
        headingsOver_refCountedMembers, own]
      rfl
    · rw [Code.headingsOver_append (wellNested_scopedMembers _), headingsOver_scopedMembers, own]
      rfl
  rw [body_eq, Code.headingsOver_append wellNested_membersBefore, before,
    Code.headingsOver_append wellNested_delegateFields, delegates,
    Code.headingsOver_append (.blank .nil), Code.headingsOver_append (wellNested_construction _),
    headingsOver_construction, after]
  rfl

/-! ## The types of the thunks -/

theorem checkHeading_injective : Function.Injective checkHeading := by
  have whole : ∀ type, (checkHeading type).toList =
      "private void CheckSelf(".toList ++ (type.toList ++ " self)".toList) := by
    intro type
    unfold checkHeading
    simp only [toString, String.toList_append, List.append_assoc]
  intro first second same
  have texts := congrArg String.toList same
  rw [whole, whole] at texts
  exact String.toList_inj.mp (List.append_cancel_right (List.append_cancel_left texts))

theorem thunkHeading_injective (sig : Signature) : Function.Injective (thunkHeading sig) := by
  obtain ⟨tail, parameters⟩ := Signature.declared_cons selfName sig.instanceParameters
  have whole : ∀ type, (thunkHeading sig type).toList =
      s!"private {sig.targetReturn} {sig.targetName}(".toList ++
        (type.toList ++ (tail.toList ++ [')'])) := by
    intro type
    unfold thunkHeading
    rw [parameters]
    simp only [toString, String.toList_append, List.append_assoc]
    rfl
  intro first second same
  have texts := congrArg String.toList same
  rw [whole, whole] at texts
  exact String.toList_inj.mp (List.append_cancel_right (List.append_cancel_left texts))

/-- A pointer type is that of one struct. -/
theorem eq_of_pointer_eq {first second : String} (same : s!"{first}*" = s!"{second}*") :
    first = second := by
  have texts := congrArg String.toList same
  simp only [toString, String.toList_append] at texts
  exact String.toList_inj.mp (List.append_cancel_right texts)

/-- The thunk of a function takes an object of the class that declares it. -/
theorem headingsOver_thunk_virtualMethod (naming : Naming) (f : NativeFunction)
    (owner : NativeClass) (index : Nat) :
    Code.headingsOver checkCall (thunk (naming.virtualMethod f owner index)) =
      [thunkHeading (naming.virtualMethod f owner index) s!"{owner.abiName}*"] := by
  rw [headingsOver_thunk (by decide), if_pos rfl]
  rfl

theorem thunk_infix_body {slot : Slot} (member : slot ∈ layout.ownSlots) (names : MemberNames) :
    thunk slot.signature <:+: body names ctx cls layout := by
  have spaced : thunk slot.signature <:+: .blank :: thunk slot.signature :=
    (List.suffix_cons _ _).isInfix
  have thunks : (.blank :: thunk slot.signature) <:+:
      layout.ownSlots.flatMap fun slot => .blank :: thunk slot.signature :=
    List.infix_of_mem_flatten (List.mem_map_of_mem member)
  rw [body_eq, membersAfter]
  simp only [← List.append_assoc]
  exact (spaced.trans thunks).trans (List.suffix_append _ _).isInfix

/-- The object of a function is checked at its type when the class itself declares the function. -/
theorem exists_selfChecked_iff {naming : Naming} {f : NativeFunction} {owner : NativeClass}
    {index : Nat} (member : ⟨index, naming.virtualMethod f owner index⟩ ∈ layout.ownSlots) :
    (∃ type, SelfChecked ctx cls layout ⟨index, naming.virtualMethod f owner index⟩ type) ↔
      owner.abiName = layout.abiName := by
  constructor
  · rintro ⟨type, _, passed, taken⟩
    rw [headingsOver_thunk_virtualMethod] at passed
    rw [headingsOver_body] at taken
    have own := thunkHeading_injective _ (List.singleton_inj.mp passed)
    have checked := checkHeading_injective (List.singleton_inj.mp taken)
    exact eq_of_pointer_eq (own.trans checked.symm)
  · intro same
    refine ⟨s!"{layout.abiName}*", thunk_infix_body member _, ?_, headingsOver_body _⟩
    rw [headingsOver_thunk_virtualMethod, same]

/-- Every slot below the root passes its object to a check that takes it exactly when no class above
declares a function. -/
theorem selfChecked_iff {api : NativeApi} {naming : Naming} {ancestry : Ancestry}
    (ctx : Context) (walked : api.ancestry cls = .ok ancestry)
    (laid : api.layout naming cls = .ok layout) :
    (∀ slot ∈ layout.ownSlots, ∃ type, SelfChecked ctx cls layout slot type) ↔
      ∀ ancestor ∈ ancestry.chain, ancestor ≠ cls → ancestor.virtuals = [] := by
  obtain ⟨_, again, rfl⟩ := NativeApi.layout_eq_ok_iff.mp laid
  obtain rfl := Except.ok.inj (walked.symm.trans again)
  obtain ⟨ascent, distinct⟩ := NativeApi.ancestry_eq_ok_iff.mp walked
  have inside : cls ∈ ancestry.chain := List.mem_of_getLast? ascent.getLast?_eq
  constructor
  · intro checked ancestor above other
    by_contra some
    obtain ⟨f, declared⟩ := List.exists_mem_of_ne_nil _ some
    obtain ⟨index, member⟩ := Layout.exists_mem_ownSlots above declared
    have same := (exists_selfChecked_iff member).mp (checked _ member)
    exact other (List.inj_on_of_nodup_map distinct above inside same)
  · intro none slot member
    obtain ⟨owner, above, f, declared, index, rfl⟩ := Layout.exists_of_mem_ownSlots member
    apply (exists_selfChecked_iff member).mpr
    by_contra other
    have empty := none owner above (by rintro rfl; exact other rfl)
    rw [empty] at declared
    cases declared

/-- A class below the counted root. -/
def view (functions : List NativeFunction) : NativeClass :=
  { NativeClass.bare "View" "view_t" "CefBaseRefCounted" "cef_base_ref_counted_t" with
    virtuals := functions }

/-- A class with one function that derives from it. -/
def button : NativeClass :=
  { NativeClass.bare "Button" "button_t" "View" "view_t" with
    virtuals := [⟨"OnPressed", "on_pressed", "void", [], false, []⟩] }

/-- A context where the derived class is a handler. -/
def buttonContext : Context where
  settings := Settings.default
  classification := Classification.empty.insert "Button" (.ofRole .handler)
  types := .ofClasses Dictionary.empty [view [], button]

/-- The layout of the derived class. -/
def buttonLayout (functions : List NativeFunction) : Layout :=
  .ofAncestry buttonContext.naming button ⟨[view functions, button], .refCounted⟩

theorem ancestry_button (functions : List NativeFunction) :
    NativeApi.ancestry ⟨[view functions, button], []⟩ button =
      .ok ⟨[view functions, button], .refCounted⟩ := by
  cbv

theorem layout_button (functions : List NativeFunction) :
    NativeApi.layout ⟨[view functions, button], []⟩ buttonContext.naming button =
      .ok (buttonLayout functions) := by
  rw [NativeApi.layout, ancestry_button]
  rfl

/-- The class above declares nothing, so the function of the class is checked at its own type. -/
theorem selfChecked_iff_button :
    NativeApi.layout ⟨[view [], button], []⟩ buttonContext.naming button = .ok (buttonLayout []) ∧
      (buttonLayout []).ownSlots.length = 1 ∧
      ∀ slot ∈ (buttonLayout []).ownSlots, ∃ type,
        SelfChecked buttonContext button (buttonLayout []) slot type := by
  refine ⟨layout_button [], by decide,
    (selfChecked_iff buttonContext (ancestry_button []) (layout_button [])).mpr ?_⟩
  rw [List.forall_mem_cons, List.forall_mem_singleton]
  exact ⟨fun _ => rfl, fun other => absurd rfl other⟩

/-- A function that the class above declares. -/
def onResized : NativeFunction := ⟨"OnResized", "on_resized", "int", [⟨"int", "width"⟩], false, []⟩

/-- The thunk of an inherited function takes an object of the class above, and the check does
not. -/
theorem not_selfChecked_of_inherited :
    NativeApi.layout ⟨[view [onResized], button], []⟩ buttonContext.naming button =
        .ok (buttonLayout [onResized]) ∧
      ∃ slot ∈ (buttonLayout [onResized]).ownSlots,
        Code.headingsOver checkCall (thunk slot.signature) =
          ["private int on_resized(view_t* self, int width)"] ∧
        Code.headingsOver selfComparison
            (body FlatMember.name buttonContext button (buttonLayout [onResized])) =
          ["private void CheckSelf(button_t* self)"] ∧
        ¬∃ type, SelfChecked buttonContext button (buttonLayout [onResized]) slot type := by
  have member : ⟨4, buttonContext.naming.virtualMethod onResized (view [onResized]) 4⟩ ∈
      (buttonLayout [onResized]).ownSlots := by
    rw [buttonLayout, Layout.ownSlots_ofAncestry]
    exact List.mem_cons_self
  refine ⟨layout_button _, _, member, by decide +kernel, headingsOver_body _, fun checked => ?_⟩
  have same := (exists_selfChecked_iff member).mp checked
  exact absurd same (by decide)

end HandlerClass

end Bindery
