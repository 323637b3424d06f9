import Bindery.Source.Context
import Bindery.Source.FlatMember

/-! # Proxies

A proxy lets managed code call a native object. Its flat struct forwards each slot of the function
table through a cached delegate, and its wrapper class holds one native reference, forwards the
functions that the class itself declares and gives the reference back once.
-/

namespace Bindery.ProxyClass

/-- The forwarder of one variant of a slot. It caches the last address and its delegate. -/
def slotForwarder (names : MemberNames) (sig : Signature) (variant : String) : Code :=
  let delegate := names (.delegateType s!"{sig.delegateType}{variant}")
  let function := names (.function s!"{sig.targetName}{variant}")
  let cachedAddress := s!"_p{sig.slotId}{variant}"
  let cachedDelegate := s!"_d{sig.slotId}{variant}"
  let hit := Code.inBraces s!"d = {cachedDelegate};"
  let fill := Code.inBraces s!"{cachedDelegate} = d; {cachedAddress} = p;"
  Code.concat [
    [ .line s!"// {sig.name}",
      .line s!"private static IntPtr {cachedAddress};",
      .line s!"private static {delegate} {cachedDelegate};",
      .blank ],
    Code.spacedBlock
      s!"public static {sig.targetReturn}{variant} {function}({sig.parameterList})" <|
      Code.concat [
        [ .line s!"{delegate} d;",
          .line s!"var p = self->{sig.fieldName};",
          .line s!"if (p == {cachedAddress}) {hit}" ],
        Code.block "else"
          [ .line s!"d = ({delegate})Marshal.GetDelegateForFunctionPointer(p, typeof({delegate}));",
            .line s!"if ({cachedAddress} == IntPtr.Zero) {fill}" ],
        [ .line <| if sig.returnsVoid then s!"d({sig.argumentList});"
          else s!"return d({sig.argumentList});" ] ] ]

/-- The forwarders in the flat struct, under given names, one for each variant of each slot. -/
def structMembersUnder (names : MemberNames) (ctx : Context) (layout : Layout) : Code :=
  layout.slots.flatMap fun slot =>
    (ctx.types.variants slot.signature.targetReturn).flatMap (slotForwarder names slot.signature)

/-- The forwarders in the flat struct. -/
def structMembers (ctx : Context) (layout : Layout) : Code :=
  structMembersUnder FlatMember.name ctx layout

/-- The heading of the wrapper class. -/
def heading (ctx : Context) (cls : NativeClass) (layout : Layout) : String :=
  let openness := if ctx.classification.isAbstract cls.name then "" else "sealed "
  let base :=
    if !layout.isRootChild then s!" : {ctx.classification.displayName cls.parentName}"
    else if layout.isRefCounted then " : IDisposable"
    else ""
  s!"public {openness}unsafe partial class {ctx.wrapperName cls}{base}"

/-- Gives the native reference back on the first of several occasions. -/
def releaseOnce : Code :=
  Code.block "if (Interlocked.CompareExchange(ref _disposed, 1, 0) == 0)"
    [ .line "Release();", .line "_self = null;" ]

/-- The call of a function of the root. -/
def rootCall (names : MemberNames) (interface function : String) : String :=
  s!"{interface}.{names (.function function)}(_self)"

/-- The members of a wrapper that owns a counted reference. -/
def refCountedMembers (names : MemberNames) (name interface : String) : Code :=
  let call := rootCall names interface
  let query (function : String) := "get " ++ Code.inBraces s!"return {call function} != 0;"
  Code.concat [
    Code.spacedBlock s!"~{name}()" releaseOnce,
    Code.spacedBlock "public void Dispose()"
      (releaseOnce ++
        [ .line "CefObjectTracker.Untrack(this);", .line "GC.SuppressFinalize(this);" ]),
    Code.spacedBlock "internal void AddRef()" [ .line (call "add_ref" ++ ";") ],
    Code.spacedBlock "internal bool Release()"
      [ .line ("return " ++ call "release" ++ " != 0;") ],
    Code.spacedBlock "internal bool HasOneRef" [ .line (query "has_one_ref") ],
    Code.spacedBlock "internal bool HasAtLeastOneRef" [ .line (query "has_at_least_one_ref") ] ]

/-- Whether a function returns a reference to an object of the class that is being wrapped. -/
def returnsOwnClass (sig : Signature) (interface : String) : Bool :=
  sig.targetReturn = s!"{interface}*"

/-- The return type of a public member. References to the own class become wrappers. -/
def publicReturn (sig : Signature) (name interface : String) : String :=
  if returnsOwnClass sig interface then name else sig.targetReturn

/-- The statement that makes a call and passes its result on. -/
def callStatement (sig : Signature) (name interface call : String) : Directive :=
  if sig.returnsVoid then .line s!"{call};"
  else if returnsOwnClass sig interface then .line s!"return {name}.FromNativeOrNull({call});"
  else .line s!"return {call};"

/-- The public member for a static function of the class. -/
def staticForwarder (names : MemberNames) (name interface : String) (sig : Signature) : Code :=
  let call := s!"{interface}.{names (.function sig.targetName)}({sig.argumentList})"
  Code.block
    s!"public static {publicReturn sig name interface} {sig.name}({sig.parameterList})"
    [callStatement sig name interface call]

/-- The public member for a slot that the class declares. -/
def instanceForwarder (names : MemberNames) (name interface self : String) (sig : Signature) :
    Code :=
  let arguments := Text.joined ", " (self :: sig.instanceArguments)
  let call := s!"{interface}.{names (.function sig.targetName)}({arguments})"
  Code.block
    s!"public {publicReturn sig name interface} {sig.name}({sig.instanceParameterList})"
    [callStatement sig name interface call]

/-- How the wrapper's own members refer to the native object. -/
def selfExpression (layout : Layout) : String :=
  if layout.isRootChild then "_self" else s!"({layout.abiName}*)_self"

/-- The field and the constructor of a wrapper. A derived wrapper passes its reference to its
base. -/
def construction (names : MemberNames) (access name : String) (cls : NativeClass)
    (layout : Layout) : Code :=
  let interface := layout.abiName
  if layout.isRootChild then
    Code.concat [
      [ .line s!"{access} {interface}* _self;" ],
      if layout.isRefCounted then [ .line s!"{access} int _disposed = 0;" ] else [],
      [ .blank ],
      Code.spacedBlock s!"{access} {name}({interface}* ptr)" <| Code.concat [
        [ .line "if (ptr == null) throw new ArgumentNullException(\"ptr\");",
          .line "_self = ptr;" ],
        if layout.isRefCounted then [ .line "CefObjectTracker.Track(this);" ] else [] ],
      if layout.isRefCounted then refCountedMembers names name interface else [] ]
  else
    [ .line s!"{access} {name}({interface}* ptr)",
      .line s!"    : base(({cls.parentAbiName}*)ptr) \x7b \x7d",
      .blank ]

/-- The members of the wrapper class, under given names for the members of its flat struct. -/
def body (names : MemberNames) (ctx : Context) (cls : NativeClass) (layout : Layout) : Code :=
  let name := ctx.wrapperName cls
  let interface := layout.abiName
  let self := selfExpression layout
  let modifier := if layout.isRootChild then "" else "new "
  let access :=
    if ctx.classification.isAbstract cls.name then "private protected" else "private"
  let addition : Code := if layout.isRefCounted then [ .line "AddRef();" ] else []
  Code.concat [
    Code.spacedBlock s!"internal static {name} FromNative({interface}* ptr)"
      [ .line s!"return new {name}(ptr);" ],
    Code.spacedBlock s!"internal static {name} FromNativeOrNull({interface}* ptr)"
      [ .line "if (ptr == null) return null;", .line s!"return new {name}(ptr);" ],
    construction names access name cls layout,
    Code.block s!"internal {modifier}{interface}* ToNative()"
      (addition ++ [ .line s!"return {self};" ]),
    (ctx.naming.classStatics cls).flatMap fun sig =>
      .blank :: Code.documentation sig.comment ++ staticForwarder names name interface sig,
    layout.declaredSlots.flatMap fun slot =>
      .blank :: Code.documentation slot.signature.comment ++
        instanceForwarder names name interface self slot.signature ]

/-- The wrapper class. -/
def wrapper (ctx : Context) (cls : NativeClass) (layout : Layout) : Code :=
  Code.block (heading ctx cls layout) (body FlatMember.name ctx cls layout)

end Bindery.ProxyClass
