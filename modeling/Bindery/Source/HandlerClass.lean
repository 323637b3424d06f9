import Bindery.Source.Context
import Bindery.Source.FlatMember

/-! # Handlers

A handler lets native code call a managed object. Its flat struct can be allocated and freed, and
its wrapper class fills every slot of the function table with a delegate, roots itself while native
code holds references, and offers an overridable method for each slot below the root. The map of
rooted objects is always locked before an object's own lock.
-/

namespace Bindery.HandlerClass

/-- Allocation in the flat struct, under given names. The size is computed once. -/
def structMembersUnder (names : MemberNames) (layout : Layout) : Code :=
  let interface := layout.abiName
  Code.concat [
    [ .line "private static int _sizeof;", .blank ],
    Code.spacedBlock s!"static {interface}()"
      [ .line s!"_sizeof = Marshal.SizeOf(typeof({interface}));" ],
    Code.spacedBlock s!"internal static {interface}* {names .alloc}()"
      [ .line s!"var ptr = ({interface}*)Marshal.AllocHGlobal(_sizeof);",
        .line s!"*ptr = new {interface}();",
        .line "ptr->_base._size = (UIntPtr)_sizeof;",
        .line "return ptr;" ],
    Code.spacedBlock s!"internal static void {names .free}({interface}* ptr)"
      [ .line "Marshal.FreeHGlobal((IntPtr)ptr);" ] ]

/-- Allocation in the flat struct. -/
def structMembers (layout : Layout) : Code := structMembersUnder FlatMember.name layout

/-- The heading of the wrapper class. -/
def heading (ctx : Context) (cls : NativeClass) : String :=
  s!"public abstract unsafe partial class {ctx.wrapperName cls}"

/-- Looks a native reference up among the rooted objects. -/
def reverseLookup (name interface : String) (refCounted : Bool) : Code :=
  let giveBack : Code :=
    if refCounted then
      [ .line "// the caller handed us a reference; give it back",
        .line "if (found) value.release(ptr);" ]
    else []
  Code.concat [
    Code.spacedBlock s!"internal static {name} FromNativeOrNull({interface}* ptr)" <|
      Code.concat [
        [ .line s!"{name} value;", .line "bool found;" ],
        Code.block "lock (_roots)"
          (.line "found = _roots.TryGetValue((IntPtr)ptr, out value);" :: giveBack),
        [ .line "return found ? value : null;" ] ],
    Code.spacedBlock s!"internal static {name} FromNative({interface}* ptr)"
      [ .line "var value = FromNativeOrNull(ptr);",
        .line "if (value == null) throw ExceptionBuilder.ObjectNotFound();",
        .line "return value;" ] ]

/-- One statement that holds the lock of the map of rooted objects. -/
def whileRootsLocked (statement : String) : String := "lock (_roots) " ++ Code.inBraces statement

/-- The root's functions of a counted object. The first reference roots it, the last unroots it. -/
def refCountedMembers (interface : String) (disposesItself : Bool) : Code :=
  let locked (body : Code) := Code.block "lock (_roots)" (Code.block "lock (SyncRoot)" body)
  let query (condition : String) :=
    "lock (SyncRoot) " ++ Code.inBraces s!"return {condition} ? 1 : 0;"
  let disposal : Code := if disposesItself then [ .line "Dispose();" ] else []
  Code.concat [
    Code.spacedBlock s!"private void add_ref({interface}* self)" <| locked <|
      .line "var result = ++_refct;" ::
        Code.block "if (result == 1)" [ .line "_roots.Add((IntPtr)_self, this);" ],
    Code.spacedBlock s!"private int release({interface}* self)" <| locked <|
      Code.concat [
        [ .line "var result = --_refct;" ],
        Code.block "if (result == 0)"
          (.line "_roots.Remove((IntPtr)_self);" :: disposal ++ [ .line "return 1;" ]),
        [ .line "return 0;" ] ],
    Code.spacedBlock s!"private int has_one_ref({interface}* self)"
      [ .line (query "_refct == 1") ],
    Code.spacedBlock s!"private int has_at_least_one_ref({interface}* self)"
      [ .line (query "_refct != 0") ] ]

/-- The root's function of a scoped object. -/
def scopedMembers (interface : String) : Code :=
  Code.spacedBlock s!"private void del({interface}* self)"
    [ .line "CheckSelf(self);",
      .line (whileRootsLocked "_roots.Remove((IntPtr)_self);"),
      .line "Dispose();" ]

/-- What native code calls for a slot, and the method it is passed on to. -/
def thunk (sig : Signature) : Code :=
  let arguments := Text.joined ", " sig.instanceArguments
  let call := s!"{sig.name}({arguments})"
  Code.concat [
    Code.spacedBlock s!"private {sig.targetReturn} {sig.targetName}({sig.parameterList})"
      [ .line "CheckSelf(self);",
        .line <| if sig.returnsVoid then s!"{call};" else s!"return {call};" ],
    Code.documentation sig.comment,
    Code.block s!"protected virtual {sig.targetReturn} {sig.name}({sig.instanceParameterList})"
      (if sig.returnsVoid then [] else [ .line s!"return default({sig.targetReturn});" ]) ]

/-- The field that keeps a slot's delegate alive. -/
def delegateField (names : MemberNames) (interface : String) (sig : Signature) : Directive :=
  .line s!"private {interface}.{names (.delegateType sig.delegateType)} {sig.delegateSlot};"

/-- Fills a slot: makes the delegate of its thunk and stores the delegate's address. -/
def slotAssignment (names : MemberNames) (interface : String) (sig : Signature) : Code :=
  let delegate := names (.delegateType sig.delegateType)
  [ .line s!"{sig.delegateSlot} = new {interface}.{delegate}({sig.targetName});",
    .line s!"_self->{sig.fieldName} = Marshal.GetFunctionPointerForDelegate({sig.delegateSlot});" ]

/-- The constructor: allocates the flat struct and fills all slots in order. A scoped object is
rooted from the start. -/
def construction (names : MemberNames) (name : String) (layout : Layout) : Code :=
  let interface := layout.abiName
  Code.spacedBlock s!"protected {name}()" <| Code.concat [
    [ .line s!"_self = {interface}.{names .alloc}();", .blank ],
    layout.slots.flatMap fun slot => slotAssignment names interface slot.signature,
    if layout.root = .scoped then
      [ .blank, .line (whileRootsLocked "_roots.Add((IntPtr)_self, this);") ]
    else [] ]

/-- Finalization and disposal. The flat struct is freed on the first of several occasions. -/
def disposal (names : MemberNames) (name interface : String) : Code :=
  Code.concat [
    Code.spacedBlock s!"~{name}()" [ .line "Dispose(false);" ],
    Code.spacedBlock "private void Dispose()"
      [ .line "Dispose(true);", .line "GC.SuppressFinalize(this);" ],
    Code.spacedBlock "protected virtual void Dispose(bool disposing)"
      (Code.block "if (Interlocked.CompareExchange(ref _disposed, 1, 0) == 0)"
        [ .line s!"{interface}.{names .free}(_self);", .line "_self = null;" ]) ]

/-- The fields of the wrapper class. -/
def fields (name : String) (layout : Layout) : Code :=
  Code.concat [
    [ .line s!"private static Dictionary<IntPtr, {name}> _roots = new Dictionary<IntPtr, {name}>();",
      .blank ],
    if layout.isRefCounted then [ .line "private int _refct;" ] else [],
    [ .line s!"private {layout.abiName}* _self;",
      .line "private int _disposed;",
      .blank,
      .line ("protected object SyncRoot " ++
        Code.inBraces ("get " ++ Code.inBraces "return this;")),
      .blank ] ]

/-- How the wrapper class passes its native reference out and recognizes it again. -/
def selfReference (layout : Layout) : Code :=
  let addition : Code := if layout.isRefCounted then [ .line "add_ref(_self);" ] else []
  Code.concat [
    Code.spacedBlock s!"internal {layout.abiName}* ToNative()"
      (addition ++ [ .line "return _self;" ]),
    [ .line "[Conditional(\"DEBUG\")]" ],
    Code.block s!"private void CheckSelf({layout.abiName}* self)"
      [ .line "if (_self != self) throw ExceptionBuilder.InvalidSelfReference();" ] ]

/-- The members of the wrapper class, under given names for the members of its flat struct. -/
def body (names : MemberNames) (ctx : Context) (cls : NativeClass) (layout : Layout) : Code :=
  let name := ctx.wrapperName cls
  let interface := layout.abiName
  Code.concat [
    fields name layout,
    if ctx.classification.isReversible cls.name then
      reverseLookup name interface layout.isRefCounted else [],
    layout.slots.map fun slot => delegateField names interface slot.signature,
    [ .blank ],
    construction names name layout,
    disposal names name interface,
    match layout.root with
    | .refCounted => refCountedMembers interface (ctx.classification.disposesItself cls.name)
    | .scoped => scopedMembers interface,
    selfReference layout,
    layout.ownSlots.flatMap fun slot => .blank :: thunk slot.signature ]

/-- The wrapper class. -/
def wrapper (ctx : Context) (cls : NativeClass) (layout : Layout) : Code :=
  Code.block (heading ctx cls) (body FlatMember.name ctx cls layout)

end Bindery.HandlerClass
