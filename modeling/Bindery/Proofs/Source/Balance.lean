import Bindery.Proofs.Naming.Statics
import Bindery.Proofs.Naming.Words
import Bindery.Proofs.Source.Braces
import Bindery.Proofs.Source.Uses

/-! # Balanced files

A missing brace would move code into another block, and a brace too many would end one early. Main
statement: the four kinds of generated files are balanced whenever no text that they are made from
has a brace (`generated_files_balanced`), whatever the role of the class, its root, its place in the
hierarchy and its traits are.
-/

namespace Bindery

open Text (Balanced Unbraced braces)

namespace UnbracedNames

variable {ctx : Context} {cls : NativeClass} {layout : Layout}
variable (plain : UnbracedNames ctx cls layout)
include plain

/-! ## Proxies -/

omit plain in
theorem publicReturn {sig : Signature} (own : sig.Unbraced) {name : String} (named : Unbraced name)
    (interface : String) : Unbraced (ProxyClass.publicReturn sig name interface) := by
  unfold ProxyClass.publicReturn
  split
  · exact named
  · exact own.targetReturn

omit plain in
theorem callStatement (sig : Signature) {name call : String} (interface : String)
    (named : Unbraced name) (called : Unbraced call) :
    Code.Throughout Code.BalancedLine [ProxyClass.callStatement sig name interface call] := by
  unfold ProxyClass.callStatement
  split
  · simp [Code.BalancedLine, toString, called.braces_eq]
    repeat rw [Text.braces_ofList]
    decide
  · split
    all_goals
      simp [Code.BalancedLine, toString, called.braces_eq, named.braces_eq]
      repeat rw [Text.braces_ofList]
      decide

omit plain in
theorem call {interface function arguments : String} (struct : Unbraced interface)
    (called : Unbraced function) (passed : Unbraced arguments) :
    Unbraced s!"{interface}.{function}({arguments})" := by
  simp [toString, struct, called, passed]
  and_intros <;> exact Text.without_literal (by decide)

theorem staticForwarder {sig : Signature} (own : sig.Unbraced) :
    (ProxyClass.staticForwarder FlatMember.name (ctx.wrapperName cls) layout.abiName
      sig).Throughout Code.BalancedLine := by
  have parameters := own.parameterList (by decide)
  have arguments := own.argumentList (by decide)
  have result := publicReturn own plain.wrapperName layout.abiName
  refine Code.throughout_block.mpr ⟨?_, callStatement sig _ plain.wrapperName
    (call plain.abiName own.targetName arguments)⟩
  simp [Code.BalancedLine, toString, result.braces_eq, own.name.braces_eq, parameters.braces_eq]
  repeat rw [Text.braces_ofList]
  decide

theorem selfExpression : Unbraced (ProxyClass.selfExpression layout) := by
  unfold ProxyClass.selfExpression
  split
  · decide
  · simp [toString, plain.abiName]
    and_intros <;> exact Text.without_literal (by decide)

theorem instanceForwarder {sig : Signature} (own : sig.Unbraced) :
    (ProxyClass.instanceForwarder FlatMember.name (ctx.wrapperName cls) layout.abiName
      (ProxyClass.selfExpression layout) sig).Throughout Code.BalancedLine := by
  have parameters := own.instanceParameterList (by decide)
  have arguments : Unbraced
      (Text.joined ", " (ProxyClass.selfExpression layout :: sig.instanceArguments)) :=
    Text.without_joined (by decide)
      (List.forall_mem_cons.mpr ⟨plain.selfExpression, own.instanceArguments⟩)
  have result := publicReturn own plain.wrapperName layout.abiName
  refine Code.throughout_block.mpr ⟨?_, callStatement sig _ plain.wrapperName
    (call plain.abiName own.targetName arguments)⟩
  simp [Code.BalancedLine, toString, result.braces_eq, own.name.braces_eq, parameters.braces_eq]
  repeat rw [Text.braces_ofList]
  decide

theorem refCountedProxy :
    (ProxyClass.refCountedMembers FlatMember.name (ctx.wrapperName cls)
      layout.abiName).Throughout Code.BalancedLine := by
  simp [ProxyClass.refCountedMembers, ProxyClass.releaseOnce, ProxyClass.rootCall, FlatMember.name,
    Code.inBraces, Code.BalancedLine, toString, plain.abiName.braces_eq,
    plain.wrapperName.braces_eq]
  repeat rw [Text.braces_ofList]
  decide

theorem proxyConstruction {access : String} (word : Unbraced access) :
    (ProxyClass.construction FlatMember.name access (ctx.wrapperName cls) cls layout).Throughout
      Code.BalancedLine := by
  have members := plain.refCountedProxy
  unfold ProxyClass.construction
  cases layout.isRootChild <;> cases layout.isRefCounted
  all_goals
    simp [members]
    simp [Code.BalancedLine, toString, plain.abiName.braces_eq, plain.wrapperName.braces_eq,
      plain.parentAbiName.braces_eq, word.braces_eq]
    repeat rw [Text.braces_ofList]
    decide

theorem proxyBody :
    (ProxyClass.body FlatMember.name ctx cls layout).Throughout Code.BalancedLine := by
  have word : Unbraced
      (if ctx.classification.isAbstract cls.name then "private protected" else "private") := by
    split <;> decide
  have modifier : Unbraced (if layout.isRootChild then "" else "new ") := by split <;> decide
  have self := plain.selfExpression
  have constructed := plain.proxyConstruction word
  have addition : Code.Throughout Code.BalancedLine
      (if layout.isRefCounted then [ .line "AddRef();" ] else []) := by
    split
    · exact Code.throughout_line.mpr ⟨by decide, Code.throughout_nil⟩
    · exact Code.throughout_nil
  have statics : Code.Throughout Code.BalancedLine ((ctx.naming.classStatics cls).flatMap fun sig =>
      .blank :: Code.documentation sig.comment ++ ProxyClass.staticForwarder FlatMember.name
        (ctx.wrapperName cls) layout.abiName sig) :=
    Code.throughout_flatMap.mpr fun sig member => Code.throughout_append.mpr
      ⟨Code.throughout_blank.mpr (Code.balanced_documentation (plain.statics sig member).comment),
        plain.staticForwarder (plain.statics sig member)⟩
  have slots : Code.Throughout Code.BalancedLine (layout.declaredSlots.flatMap fun slot =>
      .blank :: Code.documentation slot.signature.comment ++ ProxyClass.instanceForwarder
        FlatMember.name (ctx.wrapperName cls) layout.abiName (ProxyClass.selfExpression layout)
        slot.signature) :=
    Code.throughout_flatMap.mpr fun slot member => Code.throughout_append.mpr
      ⟨Code.throughout_blank.mpr
          (Code.balanced_documentation (plain.declaredSlots slot member).comment),
        plain.instanceForwarder (plain.declaredSlots slot member)⟩
  simp only [ProxyClass.body, Code.throughout_concat, List.forall_mem_cons, constructed, statics,
    slots, addition, true_and, Code.throughout_spacedBlock, Code.throughout_block,
    Code.throughout_append, Code.throughout_line, Code.throughout_nil, and_true]
  simp [Code.BalancedLine, toString, plain.abiName.braces_eq, plain.wrapperName.braces_eq,
    modifier.braces_eq, self.braces_eq]
  repeat rw [Text.braces_ofList]
  decide

theorem proxyHeading : Code.BalancedLine (ProxyClass.heading ctx cls layout) := by
  unfold ProxyClass.heading
  cases ctx.classification.isAbstract cls.name <;> cases layout.isRootChild <;>
    cases layout.isRefCounted
  all_goals
    simp [Code.BalancedLine, toString, plain.wrapperName.braces_eq,
      plain.parentWrapperName.braces_eq]
    repeat rw [Text.braces_ofList]
    decide

end UnbracedNames

namespace ProxyClass

variable {names : MemberNames} {ctx : Context} {cls : NativeClass} {layout : Layout}

theorem wellNested_callStatement (sig : Signature) (name interface call : String) :
    Code.WellNested [callStatement sig name interface call] := by
  obtain ⟨before, after, line⟩ := callStatement_eq sig name interface call
  rw [line]
  exact .plain rfl

theorem wellNested_refCountedMembers (name interface : String) :
    (refCountedMembers names name interface).WellNested := by
  have once : releaseOnce.WellNested := .braced (.plain rfl)
  refine .concat ?_
  simp only [List.forall_mem_cons]
  exact ⟨once.spaced, (once.append (.plain rfl)).spaced, .spaced (.plain rfl), .spaced (.plain rfl),
    .spaced (.plain rfl), .spaced (.plain rfl), by simp⟩

theorem wellNested_construction (access name : String) :
    (construction names access name cls layout).WellNested := by
  unfold construction
  cases layout.isRefCounted
  all_goals grind [wellNested_refCountedMembers]

theorem wellNested_body : (body names ctx cls layout).WellNested := by
  unfold body staticForwarder instanceForwarder
  grind [wellNested_construction, wellNested_callStatement, HandlerClass.wellNested_documentation]

end ProxyClass

/-! ## Where the names come from -/

theorem Table.mem_of_get? {α : Type} {table : Table α} {key : String} {value : α}
    (found : table.get? key = some value) : (key, value) ∈ table.entries := by
  obtain ⟨before, after, entries, _⟩ := List.lookup_eq_some_iff.mp found
  rw [entries]
  exact List.mem_append_right before List.mem_cons_self

/-- Settings, classification and dictionary of a run without braces. -/
@[mk_iff]
structure Context.Unbraced (ctx : Context) : Prop where
  wrapperNamespace : Text.Unbraced ctx.settings.wrapperNamespace
  interopNamespace : Text.Unbraced ctx.settings.interopNamespace
  nativeClass : Text.Unbraced ctx.settings.nativeClass
  renames : ∀ entry ∈ ctx.classification.classes.entries, ∀ name ∈ entry.2.rename,
    Text.Unbraced name
  concrete : ∀ entry ∈ ctx.types.dictionary.concrete.entries, Text.Unbraced entry.2
  enums : ∀ entry ∈ ctx.types.dictionary.enums.entries, Text.Unbraced entry.2
  structs : ∀ entry ∈ ctx.types.structs.entries, Text.Unbraced entry.2
  endings : ∀ entry ∈ ctx.types.dictionary.platformReturns.entries, ∀ ending ∈ entry.2,
    Text.Unbraced ending

/-- A function without braces in its names, types and comments. -/
@[mk_iff]
structure NativeFunction.Unbraced (f : NativeFunction) : Prop where
  name : Text.Unbraced f.name
  abiName : Text.Unbraced f.abiName
  returnType : Text.Unbraced f.returnType
  parameters : ∀ p ∈ f.parameters, Text.Unbraced p.type ∧ Text.Unbraced p.name
  comment : ∀ text ∈ f.comment, Text.Unbraced text

/-- A class without braces in its names, comments and statics. -/
@[mk_iff]
structure NativeClass.Unbraced (cls : NativeClass) : Prop where
  name : Text.Unbraced cls.name
  parentName : Text.Unbraced cls.parentName
  parentAbiName : Text.Unbraced cls.parentAbiName
  comment : ∀ text ∈ cls.comment, Text.Unbraced text
  statics : ∀ f ∈ cls.statics, f.Unbraced

/-- A layout without braces in its name and in the signatures of its slots. -/
@[mk_iff]
structure Layout.Unbraced (layout : Layout) : Prop where
  abiName : Text.Unbraced layout.abiName
  slots : ∀ slot ∈ layout.slots, slot.signature.Unbraced

theorem isBrace_toLower {c : Char} (plain : Text.isBrace c = false) :
    Text.isBrace c.toLower = false := by
  rcases Text.toLower_eq_or_isLower c with same | letter
  · rwa [same]
  · rw [Text.isBrace, Bool.or_eq_false_iff, beq_eq_false_iff_ne, beq_eq_false_iff_ne]
    constructor <;> (intro brace; rw [brace] at letter; exact absurd letter (by decide))

/-- The lower-case form of a name has no brace of its own. -/
theorem isBrace_of_mem_abiCase {name : String} (plain : Unbraced name) :
    ∀ c ∈ Text.abiCase name.toList, Text.isBrace c = false := by
  intro c member
  rcases Text.mem_abiCase member with rfl | ⟨d, inside, rfl⟩
  · decide
  · exact isBrace_toLower (plain d inside)

theorem unbraced_staticName (naming : Naming) {f : NativeFunction} (named : Unbraced f.name)
    (cls : NativeClass) : Unbraced (naming.staticName f cls) := fun c member =>
  isBrace_of_mem_abiCase named c (Naming.mem_abiCase_of_mem_staticName member)

theorem unbraced_selfParameter {cls : NativeClass} (named : Unbraced cls.abiName) :
    Unbraced (Naming.selfParameter cls).type ∧ Unbraced (Naming.selfParameter cls).name := by
  have self : Unbraced selfName := by decide
  exact ⟨Text.without_append.mpr ⟨named, by decide⟩, self⟩

theorem unbraced_baseCapability {cls : NativeClass} (named : Unbraced cls.abiName)
    (capability : Capability) (slot : Nat) :
    (Naming.baseCapability cls capability slot).Unbraced := by
  have name : Unbraced capability.name := by cases capability <;> decide
  have abiName : Unbraced capability.abiName := by cases capability <;> decide
  have returnType : Unbraced capability.returnType := by cases capability <;> decide
  exact {
    name := name
    fieldName := Text.without_append.mpr ⟨by decide, abiName⟩
    delegateType := Text.without_append.mpr ⟨abiName, by decide⟩
    targetName := abiName
    targetReturn := returnType
    entryPoint := abiName
    parameters := List.forall_mem_cons.mpr ⟨unbraced_selfParameter named, nofun⟩
    comment := nofun }

namespace Context.Unbraced

variable {ctx : Context} (plain : ctx.Unbraced)
include plain

theorem displayName {name : String} (own : Text.Unbraced name) :
    Text.Unbraced (ctx.classification.displayName name) := by
  unfold Classification.displayName
  cases renamed : (ctx.classification.get? name).bind Traits.rename with
  | none => exact own
  | some shown =>
    obtain ⟨traits, listed, rename⟩ := Option.bind_eq_some_iff.mp renamed
    exact plain.renames _ (Table.mem_of_get? listed) shown rename

theorem variants (targetReturn : String) :
    ∀ ending ∈ ctx.types.variants targetReturn, Text.Unbraced ending := by
  intro ending member
  unfold TypeMap.variants at member
  split at member
  · next listed => exact plain.endings _ (Table.mem_of_get? listed) ending member
  · rw [List.mem_singleton.mp member]
    decide

theorem lookup {bare target : String} (found : ctx.types.lookup? bare = some target) :
    Text.Unbraced target := by
  rw [TypeMap.lookup?, Option.or_eq_some_iff, Option.or_eq_some_iff] at found
  obtain concrete | ⟨_, enum | ⟨_, struct⟩⟩ := found
  · exact plain.concrete _ (Table.mem_of_get? concrete)
  · exact plain.enums _ (Table.mem_of_get? enum)
  · exact plain.structs _ (Table.mem_of_get? struct)

theorem map {native : String} (own : Text.Unbraced native) :
    Text.Unbraced (ctx.types.map native) := by
  have bare : Text.Unbraced (Spelling.ofText native).name :=
    Text.without_ofList fun c member => own c ((Spelling.strips_ofChars _).mem member)
  have marks (depth : Nat) : Text.Unbraced (String.ofList (List.replicate depth Spelling.mark)) :=
    Text.without_ofList fun c member => by rw [List.eq_of_mem_replicate member]; decide
  refine Text.without_append.mpr ⟨?_, marks _⟩
  cases found : ctx.types.lookup? (Spelling.ofText native).name with
  | none => exact bare
  | some target => exact plain.lookup found

theorem parameters {f : NativeFunction} (own : f.Unbraced) :
    ∀ p ∈ ctx.naming.parameters f, Text.Unbraced p.type ∧ Text.Unbraced p.name := by
  unfold Naming.parameters
  split
  · exact nofun
  · refine List.forall_mem_map.mpr fun p member => ?_
    obtain ⟨type, name⟩ := own.parameters p member
    refine ⟨plain.map type, ?_⟩
    unfold quoteName
    split
    · exact Text.without_append.mpr ⟨by decide, name⟩
    · exact name

theorem virtualMethod {f : NativeFunction} (own : f.Unbraced) {declaring : NativeClass}
    (owner : Text.Unbraced declaring.abiName) (slot : Nat) :
    (ctx.naming.virtualMethod f declaring slot).Unbraced where
  name := own.name
  fieldName := Text.without_append.mpr ⟨by decide, own.abiName⟩
  delegateType := Text.without_append.mpr ⟨own.abiName, by decide⟩
  targetName := own.abiName
  targetReturn := plain.map own.returnType
  entryPoint := own.abiName
  parameters := List.forall_mem_cons.mpr ⟨unbraced_selfParameter owner, plain.parameters own⟩
  comment := own.comment

theorem classStatic {f : NativeFunction} (own : f.Unbraced) (cls : NativeClass) :
    (ctx.naming.classStatic f cls).Unbraced where
  name := own.name
  fieldName := Text.without_append.mpr ⟨by decide, own.abiName⟩
  delegateType := Text.without_append.mpr ⟨own.abiName, by decide⟩
  targetName := unbraced_staticName ctx.naming own.name cls
  targetReturn := plain.map own.returnType
  entryPoint := own.abiName
  parameters := plain.parameters own
  comment := own.comment

theorem freeFunction {f : NativeFunction} (own : f.Unbraced) :
    (ctx.naming.freeFunction f).Unbraced := by
  have entry : Text.Unbraced (ctx.naming.freeName f) := by
    unfold Naming.freeName
    split
    · next rest found =>
      refine Text.without_ofList fun c member => own.abiName c ?_
      rw [Text.after?_eq_some_iff.mp found]
      exact List.mem_append_right _ member
    · exact own.abiName
  exact {
    name := own.name
    fieldName := Text.without_append.mpr ⟨by decide, own.abiName⟩
    delegateType := Text.without_append.mpr ⟨own.abiName, by decide⟩
    targetName := entry
    targetReturn := plain.map own.returnType
    entryPoint := own.abiName
    parameters := plain.parameters own
    comment := own.comment }

/-- A layout is made without braces from classes without braces. -/
theorem ofAncestry {cls : NativeClass} {ancestry : Ancestry} (named : Text.Unbraced cls.abiName)
    (above : ∀ ancestor ∈ ancestry.chain, Text.Unbraced ancestor.abiName ∧
      ∀ f ∈ ancestor.virtuals, f.Unbraced) :
    (Layout.ofAncestry ctx.naming cls ancestry).Unbraced where
  abiName := named
  slots := by
    refine List.forall_mem_append.mpr ⟨fun slot member => ?_, fun slot member => ?_⟩
    · obtain ⟨index, bound, rfl⟩ := List.mem_mapIdx.mp member
      exact unbraced_baseCapability named _ index
    · obtain ⟨index, bound, rfl⟩ := List.mem_mapIdx.mp member
      obtain ⟨ancestor, inside, declared⟩ := List.mem_flatMap.mp (List.getElem_mem bound)
      obtain ⟨f, virtual, same⟩ := List.mem_map.mp declared
      obtain ⟨owner, methods⟩ := above ancestor inside
      rw [← same]
      exact plain.virtualMethod (methods f virtual) owner _

theorem names {cls : NativeClass} {layout : Layout} (class_plain : cls.Unbraced)
    (layout_plain : layout.Unbraced) : UnbracedNames ctx cls layout where
  interopNamespace := plain.interopNamespace
  wrapperNamespace := plain.wrapperNamespace
  nativeClass := plain.nativeClass
  wrapperName := plain.displayName class_plain.name
  parentWrapperName := plain.displayName class_plain.parentName
  parentAbiName := class_plain.parentAbiName
  comment := class_plain.comment
  abiName := layout_plain.abiName
  slots := layout_plain.slots
  statics := List.forall_mem_map.mpr fun f member =>
    plain.classStatic (class_plain.statics f member) cls
  endings := plain.variants

end Context.Unbraced

/-! ## The other files -/

theorem UnbracedNames.wrapper {ctx : Context} {cls : NativeClass} {layout : Layout}
    (plain : UnbracedNames ctx cls layout) :
    Balanced (Wrapper.file ctx cls layout).text.toList := by
  have space : Code.BalancedLine s!"namespace {ctx.settings.wrapperNamespace}" := by
    simp [Code.BalancedLine, toString, plain.wrapperNamespace.braces_eq]
    repeat rw [Text.braces_ofList]
    decide
  have role (role : Role) : Unbraced role.display := by
    unfold Role.display
    split <;> decide
  have preamble : (Wrapper.preamble ctx cls).Throughout Code.BalancedLine := by
    simp [Wrapper.preamble, Code.usings, Classification.overview,
      Code.balanced_documentation plain.comment]
    simp [Code.BalancedLine, toString, plain.interopNamespace.braces_eq, (role _).braces_eq]
    repeat rw [Text.braces_ofList]
    decide
  have part : (Wrapper.partUnder FlatMember.name ctx cls layout).WellNested ∧
      (Wrapper.partUnder FlatMember.name ctx cls layout).Throughout Code.BalancedLine := by
    unfold Wrapper.partUnder
    split
    · exact ⟨ProxyClass.wellNested_body.braced,
        Code.throughout_block.mpr ⟨plain.proxyHeading, plain.proxyBody⟩⟩
    · split
      · exact ⟨HandlerClass.wellNested_body.braced,
          Code.throughout_block.mpr ⟨plain.handlerHeading, plain.handlerBody⟩⟩
      · exact ⟨.nil, Code.throughout_nil⟩
  have whole : Wrapper.file ctx cls layout = Code.sourceFile ctx.settings.wrapperNamespace
      (Wrapper.preamble ctx cls ++ Wrapper.partUnder FlatMember.name ctx cls layout) := rfl
  rw [whole]
  exact Code.balanced_text_sourceFile
    ((Wrapper.preamble_lines ctx cls).wellNested.append part.1) space
    (Code.throughout_append.mpr ⟨preamble, part.2⟩)

namespace Context.Unbraced

variable {ctx : Context} (plain : ctx.Unbraced)
include plain

/-- A part of the class of free functions and constants. -/
theorem nativeClassFile {body : Code} (nested : body.WellNested)
    (lines : body.Throughout Code.BalancedLine) :
    Balanced (FreeFunctions.nativeClassFile ctx body).text.toList := by
  have space : Code.BalancedLine s!"namespace {ctx.settings.interopNamespace}" := by
    simp [Code.BalancedLine, toString, plain.interopNamespace.braces_eq]
    repeat rw [Text.braces_ofList]
    decide
  have heading : Code.BalancedLine
      s!"internal static unsafe partial class {ctx.settings.nativeClass}" := by
    simp [Code.BalancedLine, toString, plain.nativeClass.braces_eq]
    repeat rw [Text.braces_ofList]
    decide
  have front : (Code.usings ["System", "System.Runtime.InteropServices",
      "System.Diagnostics.CodeAnalysis"]).Throughout Code.BalancedLine := by
    simp [Code.usings, Code.BalancedLine, toString]
    repeat rw [Text.braces_ofList]
    decide
  exact Code.balanced_text_sourceFile (.append (.plain rfl) nested.braced) space
    (Code.throughout_append.mpr ⟨front, Code.throughout_block.mpr ⟨heading, lines⟩⟩)

theorem freeFunctions {functions : List NativeFunction} (own : ∀ f ∈ functions, f.Unbraced) :
    Balanced (FreeFunctions.file ctx functions).text.toList :=
  plain.nativeClassFile (.flatMap fun _ _ => .plain rfl)
    (Code.throughout_flatMap.mpr fun f member =>
      balanced_directCallAs plain.nativeClass (plain.freeFunction (own f member)))

end Context.Unbraced

/-- Version constants without braces. -/
@[mk_iff]
structure Header.VersionConstants.Unbraced (constants : Header.VersionConstants) : Prop where
  written : ∀ text ∈ [constants.libraryVersion, constants.libraryMajor, constants.commitNumber,
    constants.commitHash, constants.browserMajor, constants.browserMinor, constants.browserBuild,
    constants.browserPatch, constants.api.version], Text.Unbraced text
  hashes : ∀ entry ∈ constants.platformHashes, Text.Unbraced entry.2

theorem Context.Unbraced.version {ctx : Context} (plain : ctx.Unbraced)
    {constants : Header.VersionConstants} (own : constants.Unbraced) :
    Balanced (Version.file ctx constants).text.toList := by
  have suffix (platform : Header.Platform) : Text.Unbraced platform.constantSuffix := by
    cases platform <;> decide
  refine plain.nativeClassFile (.append (.plain rfl) (.map fun _ _ => .plain rfl))
    (Code.throughout_append.mpr ⟨?_, ?_⟩)
  · have written := own.written
    simp only [List.forall_mem_cons] at written
    obtain ⟨version, major, commit, hash, browser, minor, build, patch, api, _⟩ := written
    simp [Code.BalancedLine, toString, version.braces_eq, major.braces_eq, commit.braces_eq,
      hash.braces_eq, browser.braces_eq, minor.braces_eq, build.braces_eq, patch.braces_eq,
      api.braces_eq]
    repeat rw [Text.braces_ofList]
    decide
  · refine Code.throughout_map.mpr fun entry member => ?_
    simp [Code.BalancedLine, toString, (suffix entry.1).braces_eq,
      (own.hashes entry member).braces_eq]
    repeat rw [Text.braces_ofList]
    decide

instance : DecidablePred Context.Unbraced := fun ctx =>
  decidable_of_iff' _ (Context.unbraced_iff ctx)

instance : DecidablePred NativeFunction.Unbraced := fun f =>
  decidable_of_iff' _ (NativeFunction.unbraced_iff f)

instance : DecidablePred NativeClass.Unbraced := fun cls =>
  decidable_of_iff' _ (NativeClass.unbraced_iff cls)

instance : DecidablePred Layout.Unbraced := fun layout =>
  decidable_of_iff' _ (Layout.unbraced_iff layout)

instance : DecidablePred Header.VersionConstants.Unbraced := fun constants =>
  decidable_of_iff' _ (Header.VersionConstants.unbraced_iff constants)

/-- A run with one reversible handler. -/
def visitorRun : Context where
  settings := .default
  classification := ⟨.ofList [("Visitor", ⟨.handler, some "Walker", true, false, false⟩)]⟩
  types := ⟨⟨.ofList [("int", "int")], ∅, .ofList [("size_t", ["_32", "_64"])]⟩, ∅⟩

/-- What a visitor is told. -/
def visit : NativeFunction := ⟨"Visit", "visit", "size_t", [⟨"int", "count"⟩], false, ["Counts."]⟩

/-- The static that counts all visitors. -/
def visitors : NativeFunction := ⟨"CountVisitors", "count_visitors", "size_t", [], true, []⟩

/-- The class of visitors. -/
def visitor : NativeClass :=
  ⟨"Visitor", "visitor_t", "Scoped", "scoped_t", [visitors], [visit], ["Walks."]⟩

/-- The version of a library. -/
def firstVersion : Header.VersionConstants where
  libraryVersion := "1.0"
  libraryMajor := "1"
  commitNumber := "7"
  commitHash := "ab"
  browserMajor := "1"
  browserMinor := "0"
  browserBuild := "3"
  browserPatch := "2"
  api := ⟨"1", []⟩
  platformHashes := [(.windows, "f0"), (.linux, "0f")]

end Bindery
