import Bindery.Proofs.Source.Throughout
import Bindery.Proofs.Source.Wiring
import Bindery.Proofs.Spelling.Stripping
import Bindery.Proofs.Text.Braces
import Bindery.Source.Version

/-! # Braces of generated code

Most lines of generated code have no brace of their own, and the others close what they open. Main
statements: the text of whole blocks is balanced if their lines are (`Code.balanced_page`), hence so
is that of a file (`Code.balanced_text_sourceFile`); and the lines of flat structs and handlers are
balanced when the names and comments in them have no brace (`UnbracedNames.flatStruct`,
`UnbracedNames.handlerBody`).
-/

namespace Bindery

open Text (Balanced Unbraced braces)

namespace Code

/-- A line whose braces are balanced. -/
def BalancedLine (line : String) : Prop := Balanced (braces line)

instance : DecidablePred BalancedLine := fun line =>
  inferInstanceAs (Decidable (Balanced (braces line)))

variable {code body : Code} {name : String}

theorem balanced_blanks (n : Nat) : Balanced (List.replicate n ' ') := by
  refine .of_filter ?_
  rw [List.filter_eq_nil_iff.mpr fun c member => by rw [List.eq_of_mem_replicate member]; decide]
  exact Text.balanced_nil

theorem balanced_lineFeed : Balanced ['\n'] := by decide

/-- The text of a row. -/
theorem balanced_row {line : String} (balanced : BalancedLine line) (depth : Nat) :
    Balanced (row depth line ++ "\n").toList := by
  rw [String.toList_append]
  refine .append ?_ balanced_lineFeed
  unfold row
  split
  · exact Text.balanced_nil
  · rw [String.toList_append, String.toList_ofList]
    exact (balanced_blanks _).append (.of_braces balanced)

/-- The characters of rows, each with its line feed. -/
def page (rows : List String) : List Char := (String.join (rows.map (· ++ "\n"))).toList

theorem page_nil : page [] = [] := rfl

theorem page_cons (first : String) (rest : List String) :
    page (first :: rest) = (first ++ "\n").toList ++ page rest := by
  rw [page, List.map_cons, String.join_cons, String.toList_append]
  rfl

theorem page_append (first second : List String) :
    page (first ++ second) = page first ++ page second := by
  rw [page, List.map_append, String.join_append, String.toList_append]
  rfl

/-- The rows of a block are its heading and, between two braces, the rows of its body. -/
theorem page_block (nested : WellNested body) (depth : Nat) (heading : String) :
    page (rows depth (block heading body)) =
      (row depth heading ++ "\n").toList ++ (List.replicate (depth * 4) ' ' ++
        ('\x7b' :: ('\n' :: page (rows (depth + 1) body) ++ List.replicate (depth * 4) ' ') ++
          ['\x7d']) ++ ['\n']) := by
  have opening : (row depth openBrace ++ "\n").toList =
      List.replicate (depth * 4) ' ' ++ ['\x7b', '\n'] := by
    rw [String.toList_append, toList_row (by decide)]
    exact List.append_assoc _ _ _
  have closing : (row depth closeBrace ++ "\n").toList =
      List.replicate (depth * 4) ' ' ++ ['\x7d', '\n'] := by
    rw [String.toList_append, toList_row (by decide)]
    exact List.append_assoc _ _ _
  rw [rows_block nested, page_cons, page_cons, page_append, page_cons, page_nil, opening, closing]
  simp only [List.append_assoc, List.cons_append, List.nil_append, List.append_nil]

/-- Whole blocks of balanced lines are balanced. -/
theorem balanced_page (nested : WellNested code) (lines : code.Throughout BalancedLine)
    (depth : Nat) : Balanced (page (rows depth code)) := by
  induction nested generalizing depth with
  | nil => exact Text.balanced_nil
  | line _ ih =>
    obtain ⟨here, later⟩ := throughout_line.mp lines
    rw [rows, page_cons]
    exact (balanced_row here depth).append (ih later depth)
  | blank _ ih =>
    rw [rows, page_cons]
    exact balanced_lineFeed.append (ih (throughout_blank.mp lines) depth)
  | block nested _ inside after =>
    obtain ⟨block, later⟩ := throughout_append.mp lines
    obtain ⟨heading, body⟩ := throughout_block.mp block
    have inner := (balanced_lineFeed.append (inside body (depth + 1))).append
      (balanced_blanks (depth * 4))
    rw [rows_append nested.braced, page_append, page_block nested]
    exact .append (.append (balanced_row heading depth) (.append (.append (balanced_blanks _)
      inner.braced) balanced_lineFeed)) (after later depth)

/-- The text of a generated file of balanced lines is balanced. -/
theorem balanced_text_sourceFile (nested : WellNested body)
    (named : BalancedLine s!"namespace {name}") (lines : body.Throughout BalancedLine) :
    Balanced (sourceFile name body).text.toList := by
  have banner : Balanced (page bannerRows) := by decide
  have inside : (block s!"namespace {name}" body).Throughout BalancedLine :=
    throughout_block.mpr ⟨named, lines⟩
  rw [text_sourceFile nested]
  change Balanced (page (bannerRows ++ rows 0 (block s!"namespace {name}" body)))
  rw [page_append]
  exact banner.append (balanced_page nested.braced inside 0)

theorem balanced_documentation {comment : List String}
    (plain : ∀ text ∈ comment, Unbraced text) :
    (documentation comment).Throughout BalancedLine := by
  refine throughout_documentation (by decide) (by decide) fun text member => ?_
  have shown : Unbraced (escapeXml (trimmed text)) :=
    Text.without_escapeXml (by simp [Text.entityCharacters, Text.isBrace])
      (Text.without_trimmed (plain text member))
  simp [BalancedLine, toString, shown.braces_eq]
  repeat rw [Text.braces_ofList]
  decide

end Code

/-- A signature without braces in its names and comments. -/
abbrev Signature.Unbraced (sig : Signature) : Prop := sig.Without Text.isBrace

/-- What a class and its layout put into generated files has no braces. -/
structure UnbracedNames (ctx : Context) (cls : NativeClass) (layout : Layout) : Prop where
  interopNamespace : Unbraced ctx.settings.interopNamespace
  wrapperNamespace : Unbraced ctx.settings.wrapperNamespace
  nativeClass : Unbraced ctx.settings.nativeClass
  wrapperName : Unbraced (ctx.wrapperName cls)
  parentWrapperName : Unbraced (ctx.classification.displayName cls.parentName)
  parentAbiName : Unbraced cls.parentAbiName
  comment : ∀ text ∈ cls.comment, Unbraced text
  abiName : Unbraced layout.abiName
  slots : ∀ slot ∈ layout.slots, slot.signature.Unbraced
  statics : ∀ sig ∈ ctx.naming.classStatics cls, sig.Unbraced
  endings : ∀ targetReturn, ∀ ending ∈ ctx.types.variants targetReturn, Unbraced ending

theorem unbraced_slotId (sig : Signature) : Unbraced sig.slotId := by
  refine Text.without_ofList fun c member => ?_
  rw [Text.isBrace, Bool.or_eq_false_iff, beq_eq_false_iff_ne, beq_eq_false_iff_ne]
  constructor
  · rintro rfl
    exact not_mem_toDigits (by decide) sig.slot member
  · rintro rfl
    exact not_mem_toDigits (by decide) sig.slot member

theorem unbraced_delegateSlot (sig : Signature) : Unbraced sig.delegateSlot :=
  Text.without_append.mpr ⟨by decide, unbraced_slotId sig⟩

theorem balanced_directCallAs {ctx : Context} {sig : Signature}
    (native : Unbraced ctx.settings.nativeClass) (plain : sig.Unbraced) :
    (ctx.directCallAs sig.targetName sig).Throughout Code.BalancedLine := by
  have parameters := plain.parameterList (by decide)
  simp [Context.directCallAs, Code.BalancedLine, toString, plain.name.braces_eq,
    plain.entryPoint.braces_eq, plain.targetReturn.braces_eq, plain.targetName.braces_eq,
    parameters.braces_eq, native.braces_eq]
  repeat rw [Text.braces_ofList]
  decide

namespace UnbracedNames

variable {ctx : Context} {cls : NativeClass} {layout : Layout}
variable (plain : UnbracedNames ctx cls layout)
include plain

theorem ownSlots : ∀ slot ∈ layout.ownSlots, slot.signature.Unbraced :=
  fun slot member => plain.slots slot (List.mem_filter.mp member).1

theorem declaredSlots : ∀ slot ∈ layout.declaredSlots, slot.signature.Unbraced :=
  fun slot member => plain.ownSlots slot (List.mem_filter.mp member).1

/-! ## The file of the flat struct -/

theorem delegateType {sig : Signature} (own : sig.Unbraced) {ending visibility : String}
    (known : Unbraced ending) (word : Unbraced visibility) :
    (FlatStruct.delegateType FlatMember.name ctx visibility sig ending).Throughout
      Code.BalancedLine := by
  have parameters := own.parameterList (by decide)
  simp [FlatStruct.delegateType, FlatMember.name, Code.BalancedLine, toString,
    own.targetReturn.braces_eq, own.delegateType.braces_eq, parameters.braces_eq,
    plain.nativeClass.braces_eq, known.braces_eq, word.braces_eq]
  repeat rw [Text.braces_ofList]
  decide

omit plain in
theorem slotForwarder {sig : Signature} (own : sig.Unbraced) {ending : String}
    (known : Unbraced ending) :
    (ProxyClass.slotForwarder FlatMember.name sig ending).Throughout Code.BalancedLine := by
  have parameters := own.parameterList (by decide)
  have arguments := own.argumentList (by decide)
  unfold ProxyClass.slotForwarder
  cases sig.returnsVoid
  all_goals
    simp [FlatMember.name, Code.BalancedLine, Code.inBraces, toString, own.name.braces_eq,
      (unbraced_slotId sig).braces_eq, known.braces_eq, own.targetReturn.braces_eq,
      own.targetName.braces_eq, own.delegateType.braces_eq, own.fieldName.braces_eq,
      parameters.braces_eq, arguments.braces_eq]
    repeat rw [Text.braces_ofList]
    decide

theorem allocation :
    (HandlerClass.structMembersUnder FlatMember.name layout).Throughout Code.BalancedLine := by
  simp [HandlerClass.structMembersUnder, FlatMember.name, FlatMember.alloc, FlatMember.free,
    Code.BalancedLine, toString, plain.abiName.braces_eq]
  repeat rw [Text.braces_ofList]
  decide

theorem fields : (FlatStruct.fields layout).Throughout Code.BalancedLine := by
  have root : Unbraced layout.root.abiName := by cases layout.root <;> decide
  rw [FlatStruct.fields, Code.throughout_line, Code.throughout_map]
  constructor
  · simp [Code.BalancedLine, toString, root.braces_eq]
    repeat rw [Text.braces_ofList]
    decide
  · intro slot member
    simp [Code.BalancedLine, toString, (plain.ownSlots slot member).fieldName.braces_eq]
    repeat rw [Text.braces_ofList]
    decide

theorem delegateTypes :
    (FlatStruct.delegateTypes FlatMember.name ctx cls layout).Throughout Code.BalancedLine := by
  have word : Unbraced (if (ctx.role cls).isProxy then "private" else "internal") := by
    split <;> decide
  simp only [FlatStruct.delegateTypes, Code.throughout_flatMap]
  exact fun slot member ending known =>
    plain.delegateType (plain.slots slot member) (plain.endings _ ending known) word

theorem roleMembers :
    (FlatStruct.roleMembers FlatMember.name ctx cls layout).Throughout Code.BalancedLine := by
  unfold FlatStruct.roleMembers ProxyClass.structMembersUnder
  split
  · simp only [Code.throughout_flatMap]
    exact fun slot member ending known =>
      slotForwarder (plain.slots slot member) (plain.endings _ ending known)
  · split
    · exact plain.allocation
    · exact Code.throughout_nil

theorem flatStruct : Balanced (FlatStruct.file ctx cls layout).text.toList := by
  have body : (FlatStruct.body FlatMember.name ctx cls layout).Throughout Code.BalancedLine := by
    simp only [FlatStruct.body, Code.throughout_concat, List.forall_mem_cons,
      Code.throughout_flatMap]
    exact ⟨plain.fields, by simp, fun sig member => balanced_directCallAs plain.nativeClass
      (plain.statics sig member), plain.delegateTypes, plain.roleMembers, by simp⟩
  have attributes : (FlatStruct.preamble ctx).Throughout Code.BalancedLine := by
    simp [FlatStruct.preamble, Code.usings, Code.BalancedLine, toString,
      plain.nativeClass.braces_eq]
    repeat rw [Text.braces_ofList]
    decide
  have heading : Code.BalancedLine s!"internal unsafe struct {layout.abiName}" := by
    simp [Code.BalancedLine, toString, plain.abiName.braces_eq]
    repeat rw [Text.braces_ofList]
    decide
  have space : Code.BalancedLine s!"namespace {ctx.settings.interopNamespace}" := by
    simp [Code.BalancedLine, toString, plain.interopNamespace.braces_eq]
    repeat rw [Text.braces_ofList]
    decide
  rw [FlatStruct.file_eq]
  exact Code.balanced_text_sourceFile
    ((FlatStruct.preamble_lines ctx).wellNested.append FlatStruct.wellNested_body.braced) space
    (Code.throughout_append.mpr ⟨attributes, Code.throughout_block.mpr ⟨heading, body⟩⟩)

/-! ## Handlers -/

omit plain in
theorem thunk {sig : Signature} (own : sig.Unbraced) :
    (HandlerClass.thunk sig).Throughout Code.BalancedLine := by
  have parameters := own.parameterList (by decide)
  have visible := own.instanceParameterList (by decide)
  have arguments : Unbraced (Text.joined ", " sig.instanceArguments) :=
    Text.without_joined (by decide) own.instanceArguments
  have documented := Code.balanced_documentation own.comment
  unfold HandlerClass.thunk
  cases sig.returnsVoid
  all_goals
    simp [documented]
    simp [Code.BalancedLine, toString, own.name.braces_eq, own.targetReturn.braces_eq,
      own.targetName.braces_eq, parameters.braces_eq, visible.braces_eq, arguments.braces_eq]
    repeat rw [Text.braces_ofList]
    decide

theorem construction :
    (HandlerClass.construction FlatMember.name (ctx.wrapperName cls) layout).Throughout
      Code.BalancedLine := by
  have wiring : ∀ slot ∈ layout.slots,
      (HandlerClass.slotAssignment FlatMember.name layout.abiName slot.signature).Throughout
        Code.BalancedLine := by
    intro slot member
    have own := plain.slots slot member
    simp [HandlerClass.slotAssignment, FlatMember.name, Code.BalancedLine, toString,
      plain.abiName.braces_eq, own.delegateType.braces_eq, own.targetName.braces_eq,
      own.fieldName.braces_eq, (unbraced_delegateSlot slot.signature).braces_eq]
    repeat rw [Text.braces_ofList]
    decide
  have heading : Code.BalancedLine s!"protected {ctx.wrapperName cls}()" := by
    simp [Code.BalancedLine, toString, plain.wrapperName.braces_eq]
    repeat rw [Text.braces_ofList]
    decide
  have allocated : Code.BalancedLine s!"_self = {layout.abiName}.{FlatMember.name .alloc}();" := by
    simp [FlatMember.name, FlatMember.alloc, Code.BalancedLine, toString, plain.abiName.braces_eq]
    repeat rw [Text.braces_ofList]
    decide
  have rooted :
      Code.BalancedLine (HandlerClass.whileRootsLocked "_roots.Add((IntPtr)_self, this);") := by
    unfold HandlerClass.whileRootsLocked Code.inBraces
    simp only [Code.BalancedLine, toString, Text.braces_append]
    repeat rw [Text.braces_ofList]
    decide
  have ending : Code.Throughout Code.BalancedLine (if layout.root = .scoped then
      [.blank, .line (HandlerClass.whileRootsLocked "_roots.Add((IntPtr)_self, this);")]
      else []) := by
    split
    · simpa using rooted
    · exact Code.throughout_nil
  rw [HandlerClass.construction_eq, Code.throughout_spacedBlock]
  simp only [HandlerClass.constructorBody, Code.throughout_concat, List.forall_mem_cons,
    Code.throughout_line, Code.throughout_blank, Code.throughout_flatMap]
  exact ⟨heading, ⟨allocated, Code.throughout_nil⟩, wiring, ending, by simp⟩

theorem membersBefore :
    (HandlerClass.membersBefore ctx cls layout).Throughout Code.BalancedLine := by
  unfold HandlerClass.membersBefore HandlerClass.fields HandlerClass.reverseLookup
  cases layout.isRefCounted <;> cases ctx.classification.isReversible cls.name
  all_goals
    simp [Code.BalancedLine, toString, plain.abiName.braces_eq, plain.wrapperName.braces_eq,
      Code.inBraces]
    repeat rw [Text.braces_ofList]
    decide

theorem delegateFields :
    (HandlerClass.delegateFields FlatMember.name layout).Throughout Code.BalancedLine := by
  refine Code.throughout_map.mpr fun slot member => ?_
  simp [FlatMember.name, Code.BalancedLine, toString, plain.abiName.braces_eq,
    (plain.slots slot member).delegateType.braces_eq,
    (unbraced_delegateSlot slot.signature).braces_eq]
  repeat rw [Text.braces_ofList]
  decide

theorem rootMembers : Code.Throughout Code.BalancedLine (match layout.root with
    | .refCounted =>
      HandlerClass.refCountedMembers layout.abiName (ctx.classification.disposesItself cls.name)
    | .scoped => HandlerClass.scopedMembers layout.abiName) := by
  split
  · unfold HandlerClass.refCountedMembers
    cases ctx.classification.disposesItself cls.name
    all_goals
      simp [Code.BalancedLine, Code.inBraces, toString, plain.abiName.braces_eq]
      repeat rw [Text.braces_ofList]
      decide
  · unfold HandlerClass.scopedMembers HandlerClass.whileRootsLocked
    simp [Code.BalancedLine, Code.inBraces, toString, plain.abiName.braces_eq]
    repeat rw [Text.braces_ofList]
    decide

theorem membersAfter :
    (HandlerClass.membersAfter FlatMember.name ctx cls layout).Throughout Code.BalancedLine := by
  have disposed : (HandlerClass.disposal FlatMember.name (ctx.wrapperName cls)
      layout.abiName).Throughout Code.BalancedLine := by
    simp [HandlerClass.disposal, FlatMember.name, FlatMember.free, Code.BalancedLine, toString,
      plain.abiName.braces_eq, plain.wrapperName.braces_eq]
    repeat rw [Text.braces_ofList]
    decide
  have passed : (HandlerClass.selfReference layout).Throughout Code.BalancedLine := by
    unfold HandlerClass.selfReference
    cases layout.isRefCounted
    all_goals
      simp [Code.BalancedLine, toString, plain.abiName.braces_eq]
      repeat rw [Text.braces_ofList]
      decide
  have thunks : Code.Throughout Code.BalancedLine
      (layout.ownSlots.flatMap fun slot => .blank :: HandlerClass.thunk slot.signature) := by
    simp only [Code.throughout_flatMap, Code.throughout_blank]
    exact fun slot member => thunk (plain.ownSlots slot member)
  simp only [HandlerClass.membersAfter, Code.throughout_append]
  exact ⟨disposed, plain.rootMembers, passed, thunks⟩

theorem handlerBody :
    (HandlerClass.body FlatMember.name ctx cls layout).Throughout Code.BalancedLine := by
  simp only [HandlerClass.body_eq, Code.throughout_append, Code.throughout_blank]
  exact ⟨plain.membersBefore, plain.delegateFields, Code.throughout_nil, plain.construction,
    plain.membersAfter⟩

theorem handlerHeading : Code.BalancedLine (HandlerClass.heading ctx cls) := by
  have parts : HandlerClass.heading ctx cls =
      "public abstract unsafe partial class " ++ ctx.wrapperName cls := rfl
  rw [parts, Code.BalancedLine, Text.braces_append, plain.wrapperName.braces_eq,
    Text.braces_ofList]
  decide

end UnbracedNames

end Bindery
