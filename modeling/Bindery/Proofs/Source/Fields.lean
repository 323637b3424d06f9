import Bindery.Proofs.Source.Rows
import Bindery.Source.FlatStruct

/-! # Fields of flat structs

A row of a file declares a field that every object of the type has when it stands in the namespace
and the type, begins with an access, is neither static nor the declaration of a delegate type, and
ends the declaration. Main statement: the file of a flat struct has one such row for the root's
struct and then one for each slot below the root, in slot order, and no others
(`filter_rows_file`).
-/

namespace Bindery

/-- What a member of a type may begin with. -/
def memberWords : List String := ["public ", "protected ", "internal ", "private "]

/-- Whether a text declares a field that every object of the type has. -/
def declaresInstanceField (text : List Char) : Bool :=
  memberWords.any fun word =>
    match Text.after? word.toList text with
    | some declaration => (Text.before? [';'] declaration).isSome &&
        !(["static ", "delegate "].any fun kind => kind.toList.isPrefixOf declaration)
    | none => false

theorem before?_concat (front : List Char) : Text.before? [';'] (front ++ [';']) = some front :=
  Text.before?_eq_some_iff.mpr rfl

namespace FlatStruct

variable {names : MemberNames} {ctx : Context} {cls : NativeClass} {layout : Layout}

theorem wellNested_fields : (fields layout).WellNested := by
  unfold fields
  grind

theorem wellNested_directCallAs (name : String) (sig : Signature) :
    (ctx.directCallAs name sig).WellNested := .plain rfl

theorem wellNested_delegateType (visibility : String) (sig : Signature) (ending : String) :
    (delegateType names ctx visibility sig ending).WellNested := .plain rfl

theorem wellNested_slotForwarder (sig : Signature) (ending : String) :
    (ProxyClass.slotForwarder names sig ending).WellNested := by
  unfold ProxyClass.slotForwarder
  grind

theorem wellNested_structMembersUnder :
    (HandlerClass.structMembersUnder names layout).WellNested := by
  unfold HandlerClass.structMembersUnder
  grind

theorem wellNested_delegateTypes : (delegateTypes names ctx cls layout).WellNested :=
  .flatMap fun slot _ => .flatMap fun ending _ => wellNested_delegateType _ slot.signature ending

theorem wellNested_roleMembers : (roleMembers names ctx cls layout).WellNested := by
  unfold roleMembers ProxyClass.structMembersUnder
  split
  · exact .flatMap fun slot _ => .flatMap fun ending _ =>
      wellNested_slotForwarder slot.signature ending
  · split
    · exact wellNested_structMembersUnder
    · exact .nil

theorem wellNested_body : (body names ctx cls layout).WellNested := by
  unfold body
  grind [wellNested_fields, wellNested_directCallAs, wellNested_delegateTypes,
    wellNested_roleMembers]

theorem surface_fields : Code.surface 0 (fields layout) =
    s!"internal {layout.root.abiName} _base;" ::
      layout.ownSlots.map fun slot => s!"internal IntPtr {slot.signature.fieldName};" :=
  congrArg (_ :: ·) (Code.surface_map layout.ownSlots _)

theorem lacks_directCallAs (name : String) (sig : Signature) :
    Code.Lacks declaresInstanceField (ctx.directCallAs name sig) := by
  simp [Code.Lacks, Context.directCallAs, Code.surface, declaresInstanceField, memberWords,
    Text.after?, toString]

theorem lacks_delegateType {visibility : String} (known : visibility ∈ ["private", "internal"])
    (sig : Signature) (ending : String) :
    Code.Lacks declaresInstanceField (delegateType names ctx visibility sig ending) := by
  simp only [List.mem_cons, List.not_mem_nil, or_false] at known
  rcases known with rfl | rfl <;>
    simp [Code.Lacks, delegateType, Code.surface, declaresInstanceField, memberWords, Text.after?,
      toString]

theorem surface_slotForwarder (sig : Signature) (ending : String) :
    Code.surface 0 (ProxyClass.slotForwarder names sig ending) = [
      s!"// {sig.name}",
      "private static IntPtr " ++ s!"_p{sig.slotId}{ending}" ++ ";",
      "private static " ++ names (.delegateType s!"{sig.delegateType}{ending}") ++ " " ++
        s!"_d{sig.slotId}{ending}" ++ ";",
      s!"public static {sig.targetReturn}{ending} " ++
        names (.function s!"{sig.targetName}{ending}") ++ "(" ++ sig.parameterList ++ ")"] :=
  rfl

theorem lacks_slotForwarder (sig : Signature) (ending : String) :
    Code.Lacks declaresInstanceField (ProxyClass.slotForwarder names sig ending) := by
  simp [Code.Lacks, surface_slotForwarder, declaresInstanceField, memberWords, Text.after?,
    toString]

theorem surface_structMembersUnder :
    Code.surface 0 (HandlerClass.structMembersUnder names layout) = [
      "private static int _sizeof;",
      s!"static {layout.abiName}()",
      s!"internal static {layout.abiName}* {names .alloc}()",
      s!"internal static void {names .free}({layout.abiName}* ptr)"] := rfl

theorem lacks_structMembersUnder :
    Code.Lacks declaresInstanceField (HandlerClass.structMembersUnder names layout) := by
  simp [Code.Lacks, surface_structMembersUnder, declaresInstanceField, memberWords, Text.after?,
    toString]

theorem lacks_delegateTypes :
    Code.Lacks declaresInstanceField (delegateTypes names ctx cls layout) := by
  have known : (if (ctx.role cls).isProxy then "private" else "internal") ∈
      ["private", "internal"] := by
    split <;> simp
  exact .flatMap (fun slot _ => .flatMap fun ending _ => wellNested_delegateType _ _ ending)
    fun slot _ => .flatMap (fun ending _ => wellNested_delegateType _ _ ending)
      fun ending _ => lacks_delegateType known slot.signature ending

theorem lacks_roleMembers :
    Code.Lacks declaresInstanceField (roleMembers names ctx cls layout) := by
  unfold roleMembers ProxyClass.structMembersUnder
  split
  · exact .flatMap (fun slot _ => .flatMap fun ending _ => wellNested_slotForwarder _ ending)
      fun slot _ => .flatMap (fun ending _ => wellNested_slotForwarder _ ending)
        fun ending _ => lacks_slotForwarder slot.signature ending
  · split
    · exact lacks_structMembersUnder
    · exact .nil

theorem isFlush_internal {declaration : List Char}
    (object : (["static ", "delegate "].any fun kind =>
      kind.toList.isPrefixOf (declaration ++ [';'])) = false) :
    Code.isFlush declaresInstanceField ("internal ".toList ++ (declaration ++ [';'])) = true := by
  have begins : Text.after? "internal ".toList ("internal ".toList ++ (declaration ++ [';'])) =
      some (declaration ++ [';']) := Text.after?_eq_some_iff.mpr rfl
  have declares : declaresInstanceField ("internal ".toList ++ (declaration ++ [';'])) = true := by
    rw [declaresInstanceField, List.any_eq_true]
    refine ⟨"internal ", by decide, ?_⟩
    rw [begins]
    simp only [before?_concat, object]
    rfl
  exact declares

theorem filter_fields : (Code.surface 0 (fields layout)).filter
      (fun line => Code.isFlush declaresInstanceField line.toList) =
    Code.surface 0 (fields layout) := by
  rw [List.filter_eq_self, surface_fields, List.forall_mem_cons, List.forall_mem_map]
  constructor
  · have text : (s!"internal {layout.root.abiName} _base;").toList =
        "internal ".toList ++ ((layout.root.abiName ++ " _base").toList ++ [';']) := by
      simp [toString]
    rw [text]
    apply isFlush_internal
    cases layout.root <;> decide
  · intro slot _
    have text : (s!"internal IntPtr {slot.signature.fieldName};").toList =
        "internal ".toList ++ (("IntPtr " ++ slot.signature.fieldName).toList ++ [';']) := by
      simp [toString]
    rw [text]
    apply isFlush_internal
    simp [List.isPrefixOf]

/-- What a file has in front of a flat struct. -/
def preamble (ctx : Context) : Code :=
  Code.usings ["System", "System.Diagnostics.CodeAnalysis", "System.Runtime.InteropServices",
    "System.Security"] ++
  [ Directive.line
      s!"[StructLayout(LayoutKind.Sequential, Pack = {ctx.settings.nativeClass}.ALIGN)]",
    .line "[SuppressMessage(\"Microsoft.Design\", \"CA1049:TypesThatOwnNativeResourcesShouldBeDisposable\")]" ]

theorem preamble_lines (ctx : Context) : Code.Preamble (preamble ctx) := by
  simp [preamble, Code.Preamble, Code.usings, Code.Flush, Code.isFlush, toString]

theorem file_eq (ctx : Context) (cls : NativeClass) (layout : Layout) :
    file ctx cls layout = Code.sourceFile ctx.settings.interopNamespace (preamble ctx ++
      Code.block s!"internal unsafe struct {layout.abiName}"
        (body FlatMember.name ctx cls layout)) := by
  simp [file, fileUnder, Code.concat, preamble]

/-- The fields that objects of the flat struct have are those of the struct's first rows. -/
theorem filter_rows_file :
    (Code.rows 0 (file ctx cls layout)).filter (Code.standsAt 2 declaresInstanceField) =
      Code.row 2 s!"internal {layout.root.abiName} _base;" ::
        layout.ownSlots.map fun slot =>
          Code.row 2 s!"internal IntPtr {slot.signature.fieldName};" := by
  have heading : Code.Flush s!"internal unsafe struct {layout.abiName}" := by
    simp [Code.Flush, Code.isFlush, toString]
  have parts : body FlatMember.name ctx cls layout =
      fields layout ++ ([Directive.blank] ++ ((ctx.naming.classStatics cls).flatMap (fun sig =>
        ctx.directCallAs (FlatMember.name (.function sig.targetName)) sig) ++
          (delegateTypes FlatMember.name ctx cls layout ++
            roleMembers FlatMember.name ctx cls layout))) := by
    simp [body, Code.concat]
  have statics : Code.Lacks declaresInstanceField ((ctx.naming.classStatics cls).flatMap fun sig =>
      ctx.directCallAs (FlatMember.name (.function sig.targetName)) sig) :=
    .flatMap (fun sig _ => wellNested_directCallAs _ sig) fun sig _ => lacks_directCallAs _ sig
  have others : Code.Lacks declaresInstanceField ([Directive.blank] ++
      ((ctx.naming.classStatics cls).flatMap (fun sig =>
        ctx.directCallAs (FlatMember.name (.function sig.targetName)) sig) ++
          (delegateTypes FlatMember.name ctx cls layout ++
            roleMembers FlatMember.name ctx cls layout))) :=
    .append (.plain rfl) .nil <|
      .append (.flatMap fun sig _ => wellNested_directCallAs _ sig) statics <|
        .append wellNested_delegateTypes lacks_delegateTypes lacks_roleMembers
  rw [file_eq, Code.filter_rows_sourceFile (preamble_lines ctx) wellNested_body heading _ rfl rfl,
    parts, Code.surface_append wellNested_fields, List.filter_append, others.filter_eq,
    List.append_nil, filter_fields, surface_fields, List.map_cons, List.map_map]
  rfl

end FlatStruct

end Bindery
