import Bindery.Proofs.Ancestry.Ascent
import Bindery.Proofs.Layout.Shares
import Bindery.Proofs.Source.Balance

/-! # The base of a wrapper

The wrapper of a derived class names a base class, and its constructor passes its reference to the
constructor of the base. Both are taken from what the class calls its parent, by logical name and by
struct name, while the parent itself is looked for by one of the two. Main statement: the base is
the wrapper of the parent, and takes what the parent's wrapper takes, exactly when the name that was
not looked for fits too (`ProxyClass.extendsParent_iff`).
-/

namespace Bindery.ProxyClass

variable {names : MemberNames} {ctx : Context} {cls parent : NativeClass} {layout : Layout}

/-- What a line with the call of a base constructor begins with. -/
def baseStem : String := "    : base("

/-- The call of a base constructor that takes a pointer to a struct. -/
def baseCall (interface : String) : String := s!"    : base(({interface}*)ptr) \x7b \x7d"

/-- Whether a line calls a base constructor. -/
def isBaseCall (text : List Char) : Bool := baseStem.toList.isPrefixOf text

/-- The calls of base constructors among the members of a class. -/
def baseCalls (code : Code) : List String :=
  (Code.surface 0 code).filter fun line => isBaseCall line.toList

/-- The heading of a wrapper class that has a base. -/
def headingOver (ctx : Context) (cls : NativeClass) (base : String) : String :=
  let openness := if ctx.classification.isAbstract cls.name then "" else "sealed "
  s!"public {openness}unsafe partial class {ctx.wrapperName cls} : {base}"

/-- The wrapper of a class derives from that of another class, and its constructor passes a pointer
to the struct of that class on. -/
structure ExtendsParent (ctx : Context) (cls parent : NativeClass) (layout : Layout) : Prop where
  base : heading ctx cls layout = headingOver ctx cls (ctx.wrapperName parent)
  call : baseCalls (body FlatMember.name ctx cls layout) = [baseCall parent.abiName]

/-! ## What is written -/

theorem heading_of_derived (derived : layout.isRootChild = false) :
    heading ctx cls layout =
      headingOver ctx cls (ctx.classification.displayName cls.parentName) := by
  unfold heading headingOver
  simp only [derived, Bool.not_false, if_true, toString, String.append_assoc]

theorem isBaseCall_eq_false {text : List Char} (flush : text.head? ≠ some ' ') :
    isBaseCall text = false := by
  by_contra begins
  rw [isBaseCall, Bool.not_eq_false, List.isPrefixOf_iff_prefix] at begins
  obtain ⟨rest, rfl⟩ := begins
  exact flush rfl

theorem isBaseCall_baseCall (interface : String) :
    isBaseCall (baseCall interface).toList = true := by
  have stem : baseStem.toList <+: "    : base((".toList := by decide
  unfold isBaseCall baseCall
  simp only [toString, String.toList_append, List.append_assoc]
  exact List.isPrefixOf_iff_prefix.mpr (stem.trans (List.prefix_append ..))

/-! ## The surface of a wrapper -/

/-- The access of what a wrapper has for itself and for derived classes. -/
def access (ctx : Context) (cls : NativeClass) : String :=
  if ctx.classification.isAbstract cls.name then "private protected" else "private"

/-- The member of a wrapper for a static of its class, with its comment. -/
def staticMember (names : MemberNames) (ctx : Context) (cls : NativeClass) (layout : Layout)
    (sig : Signature) : Code :=
  .blank :: Code.documentation sig.comment ++
    staticForwarder names (ctx.wrapperName cls) layout.abiName sig

/-- What a wrapper forwards: the statics of its class and the slots that the class declares. -/
def publicMembers (names : MemberNames) (ctx : Context) (cls : NativeClass) (layout : Layout) :
    Code :=
  (ctx.naming.classStatics cls).flatMap (staticMember names ctx cls layout) ++
    layout.declaredSlots.flatMap (slotMember names ctx cls layout)

/-- Whether code is a public block, with a comment before it. -/
def IsPublicMember (code : Code) : Prop :=
  ∃ comment heading body, Code.WellNested body ∧ "public ".toList <+: heading.toList ∧
    code = .blank :: Code.documentation comment ++ Code.block heading body

theorem IsPublicMember.wellNested {code : Code} (isMember : IsPublicMember code) :
    code.WellNested := by
  obtain ⟨comment, heading, body, nested, _, rfl⟩ := isMember
  exact Code.WellNested.append (.blank (HandlerClass.wellNested_documentation comment))
    nested.braced

/-- What is on the surface of a public member: the lines of a comment, and a public heading. -/
theorem IsPublicMember.lacks {kind : List Char → Bool} {code : Code}
    (isMember : IsPublicMember code)
    (comments : ∀ text : String, kind (s!"/// {text}").toList = false)
    (headings : ∀ text, "public ".toList <+: text → kind text = false) :
    Code.Lacks kind code := by
  obtain ⟨comment, heading, body, nested, isPublic, rfl⟩ := isMember
  refine .append (.blank (HandlerClass.wellNested_documentation comment)) ?_
    (.block nested (headings _ isPublic))
  intro line member
  obtain ⟨text, rfl⟩ := HandlerClass.surface_documentation member
  exact comments text

theorem isPublicMember_staticMember (sig : Signature) :
    IsPublicMember (staticMember names ctx cls layout sig) :=
  ⟨_, _, _, wellNested_callStatement .., by simp [toString], rfl⟩

theorem isPublicMember_slotMember (slot : Slot) :
    IsPublicMember (slotMember names ctx cls layout slot) :=
  ⟨_, _, _, wellNested_callStatement .., by simp [toString], rfl⟩

theorem lacks_publicMembers {kind : List Char → Bool}
    (comments : ∀ text : String, kind (s!"/// {text}").toList = false)
    (headings : ∀ text, "public ".toList <+: text → kind text = false) :
    Code.Lacks kind (publicMembers names ctx cls layout) :=
  .append (.flatMap fun sig _ => (isPublicMember_staticMember sig).wellNested)
    (.flatMap (fun sig _ => (isPublicMember_staticMember sig).wellNested)
      fun sig _ => (isPublicMember_staticMember sig).lacks comments headings)
    (.flatMap (fun slot _ => (isPublicMember_slotMember slot).wellNested)
      fun slot _ => (isPublicMember_slotMember slot).lacks comments headings)

/-- On the surface of a wrapper the construction stands between conversions from and to native
references, which are internal, and the public members come last. -/
theorem surface_body (names : MemberNames) (ctx : Context) (cls : NativeClass) (layout : Layout) :
    ∃ before behind : List String,
      (∀ line ∈ before ++ behind, "internal ".toList <+: line.toList) ∧
      Code.surface 0 (body names ctx cls layout) =
        before ++ Code.surface 0
          (construction names (access ctx cls) (ctx.wrapperName cls) cls layout) ++
        behind ++ Code.surface 0 (publicMembers names ctx cls layout) := by
  let name := ctx.wrapperName cls
  let interface := layout.abiName
  let fromNative := s!"internal static {name} FromNative({interface}* ptr)"
  let fromNativeOrNull := s!"internal static {name} FromNativeOrNull({interface}* ptr)"
  let modifier := if layout.isRootChild then "" else "new "
  let toNative := s!"internal {modifier}{interface}* ToNative()"
  let own : Code := (if layout.isRefCounted then [ Directive.line "AddRef();" ] else []) ++
    [ Directive.line s!"return {selfExpression layout};" ]
  have nested : own.WellNested := by grind
  have parts : body names ctx cls layout = Code.concat [
      Code.spacedBlock fromNative [ .line s!"return new {name}(ptr);" ],
      Code.spacedBlock fromNativeOrNull
        [ .line "if (ptr == null) return null;", .line s!"return new {name}(ptr);" ],
      construction names (access ctx cls) name cls layout,
      Code.block toNative own,
      publicMembers names ctx cls layout ] := by
    simp only [body, publicMembers, Code.concat, List.flatten_cons, List.flatten_nil,
      List.append_nil]
    rfl
  refine ⟨[fromNative, fromNativeOrNull], [toNative], ?_, ?_⟩
  · simp [fromNative, fromNativeOrNull, toNative, toString]
  · rw [parts]
    simp only [Code.concat, List.flatten_cons, List.flatten_nil, List.append_nil]
    rw [Code.surface_append (.spaced (.plain rfl)), Code.surface_append (.spaced (.plain rfl)),
      Code.surface_append (wellNested_construction _ _), Code.surface_append nested.braced,
      Code.surface_spacedBlock (.plain rfl), Code.surface_spacedBlock (.plain rfl),
      Code.surface_block nested]
    simp only [List.append_assoc, List.cons_append, List.nil_append, name]

/-! ## Calls of a base -/

theorem baseCalls_eq_nil {code : Code} (lacks : Code.Lacks isBaseCall code) :
    baseCalls code = [] :=
  List.filter_eq_nil_iff.mpr fun line member => by simp [lacks line member]

/-- The constructor of a derived wrapper calls the constructor of its base. -/
theorem baseCalls_construction (derived : layout.isRootChild = false) {access : String}
    (flush : access.toList.head? = some 'p') (name : String) :
    baseCalls (construction names access name cls layout) = [baseCall cls.parentAbiName] := by
  have heading : isBaseCall (s!"{access} {name}({layout.abiName}* ptr)").toList = false := by
    apply isBaseCall_eq_false
    simp [toString, flush]
  have call := isBaseCall_baseCall cls.parentAbiName
  unfold baseCall at call
  rw [construction, derived, if_neg Bool.false_ne_true, baseCalls]
  simp only [Code.surface, List.filter_cons, heading, call, Bool.false_eq_true, if_false, if_true,
    List.filter_nil]
  rfl

/-- A derived wrapper has one call of a base constructor. -/
theorem baseCalls_body (derived : layout.isRootChild = false) :
    baseCalls (body names ctx cls layout) = [baseCall cls.parentAbiName] := by
  obtain ⟨before, behind, conversions, surface⟩ := surface_body names ctx cls layout
  have flush : (access ctx cls).toList.head? = some 'p' := by
    unfold access
    split <;> rfl
  have construction := @baseCalls_construction names cls layout derived (access ctx cls) flush
    (ctx.wrapperName cls)
  have members : Code.Lacks isBaseCall (publicMembers names ctx cls layout) := by
    refine lacks_publicMembers (fun text => isBaseCall_eq_false (by simp [toString])) ?_
    rintro _ ⟨rest, rfl⟩
    exact isBaseCall_eq_false (by simp)
  have others : ∀ lines ⊆ before ++ behind,
      lines.filter (fun line => isBaseCall line.toList) = [] := by
    refine fun lines inside => List.filter_eq_nil_iff.mpr fun line member => ?_
    obtain ⟨rest, text⟩ := conversions line (inside member)
    rw [← text, isBaseCall_eq_false (by simp)]
    exact Bool.false_ne_true
  rw [baseCalls, surface, List.filter_append, List.filter_append, List.filter_append, ← baseCalls,
    ← baseCalls, construction, baseCalls_eq_nil members,
    others before (List.subset_append_left ..), others behind (List.subset_append_right ..)]
  rfl

/-! ## The parent -/

theorem headingOver_injective (ctx : Context) (cls : NativeClass) :
    Function.Injective (headingOver ctx cls) := by
  intro first second same
  have texts := congrArg String.toList same
  unfold headingOver at texts
  simp only [toString, String.toList_append] at texts
  exact String.toList_inj.mp (List.append_cancel_left texts)

theorem baseCall_injective : Function.Injective baseCall := by
  intro first second same
  have texts := congrArg String.toList same
  unfold baseCall at texts
  simp only [toString, String.toList_append] at texts
  exact String.toList_inj.mp (List.append_cancel_left (List.append_cancel_right texts))

/-- A derived wrapper extends a class that both names of its parent are names of. -/
theorem extendsParent_iff_names (derived : layout.isRootChild = false) :
    ExtendsParent ctx cls parent layout ↔
      ctx.classification.displayName cls.parentName = ctx.wrapperName parent ∧
        cls.parentAbiName = parent.abiName := by
  constructor
  · rintro ⟨base, call⟩
    rw [heading_of_derived derived] at base
    rw [baseCalls_body derived] at call
    exact ⟨headingOver_injective ctx cls base, baseCall_injective (List.singleton_inj.mp call)⟩
  · rintro ⟨base, call⟩
    exact ⟨by rw [heading_of_derived derived, base], by rw [baseCalls_body derived, call]⟩

/-- The wrapper of a class whose parent is not a root extends that of its parent exactly when the
parent was found by its logical name and has the given struct name, or was found by its struct name
and is shown under the given logical name. -/
theorem extendsParent_iff {api : NativeApi} {naming : Naming} {ancestry : Ancestry} (ctx : Context)
    (walked : api.ancestry cls = .ok ancestry) (long : 2 ≤ ancestry.chain.length)
    (laid : api.layout naming cls = .ok layout) :
    ∃ parent, ancestry.chain.dropLast.getLast? = some parent ∧ api.parent? cls = some parent ∧
      (ExtendsParent ctx cls parent layout ↔
        (api.classNamed? cls.parentName = some parent ∧ cls.parentAbiName = parent.abiName) ∨
          (api.classNamed? cls.parentName = none ∧
            ctx.classification.displayName cls.parentName = ctx.wrapperName parent)) := by
  obtain ⟨_, again, rfl⟩ := NativeApi.layout_eq_ok_iff.mp laid
  obtain rfl := Except.ok.inj (walked.symm.trans again)
  obtain ⟨parent, above, found, split, last, _⟩ := NativeApi.ancestry_parent walked long
  have derived : (Layout.ofAncestry naming cls ancestry).isRootChild = false := by
    simp only [Layout.isRootChild, Layout.ofAncestry, List.length_map, decide_eq_false_iff_not]
    omega
  refine ⟨parent, by rw [split, List.dropLast_concat, last], found, ?_⟩
  rw [extendsParent_iff_names derived]
  rw [NativeApi.parent?, Option.or_eq_some_iff] at found
  rcases found with named | ⟨unnamed, other⟩
  · have same : parent.name = cls.parentName := by simpa using List.find?_some named
    have shown : ctx.classification.displayName cls.parentName = ctx.wrapperName parent := by
      rw [Context.wrapperName, same]
    simp [named, shown]
  · have same : parent.abiName = cls.parentAbiName := by simpa using List.find?_some other
    simp [unnamed, same]

/-- A class that gives the logical name of its parent, and one that does not. -/
def document (parentName : String) : NativeClass :=
  .bare "Document" "document_t" parentName "node_t"

/-- The parent of both. -/
def node : NativeClass := .bare "Node" "node_t" "CefBaseRefCounted" "cef_base_ref_counted_t"

/-- A context where the parent is open and has a name of its own. -/
def documentContext : Context where
  settings := Settings.default
  classification := (Classification.empty.insert "Document" (.ofRole .proxy)).insert "Node"
    { Traits.ofRole .proxy with rename := some "DomNode", isAbstract := true }
  types := .ofClasses Dictionary.empty [node, document "Node"]

/-- The layout of a derived class. -/
def documentLayout (parentName : String) : Layout :=
  .ofAncestry documentContext.naming (document parentName)
    ⟨[node, document parentName], .refCounted⟩

theorem extendsParent_iff_document :
    ExtendsParent documentContext (document "Node") node (documentLayout "Node") := by
  have walked : NativeApi.ancestry ⟨[node, document "Node"], []⟩ (document "Node") =
      .ok ⟨[node, document "Node"], .refCounted⟩ := by
    cbv
  have laid : NativeApi.layout ⟨[node, document "Node"], []⟩ documentContext.naming
      (document "Node") = .ok (documentLayout "Node") := by
    rw [NativeApi.layout, walked]
    rfl
  obtain ⟨parent, above, _, extends_iff⟩ :=
    extendsParent_iff documentContext walked (by decide) laid
  obtain rfl : node = parent := Option.some.inj above
  exact extends_iff.mpr (.inl ⟨by decide, rfl⟩)

/-- A class whose parent is found by its struct name has the wrapper without a name as its base. -/
theorem not_extendsParent_of_unnamed :
    NativeApi.ancestry ⟨[node, document ""], []⟩ (document "") =
        .ok ⟨[node, document ""], .refCounted⟩ ∧
      heading documentContext (document "") (documentLayout "") =
        "public sealed unsafe partial class Document : " ∧
      ¬ExtendsParent documentContext (document "") node (documentLayout "") := by
  refine ⟨by cbv, by decide +kernel, fun extended => ?_⟩
  have names := (extendsParent_iff_names (by decide)).mp extended
  exact absurd names.1 (by decide)

end Bindery.ProxyClass
