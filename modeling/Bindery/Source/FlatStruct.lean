import Bindery.Source.HandlerClass
import Bindery.Source.ProxyClass

/-! # Flat structs

The flat struct of a class has the layout of its native function table: the root struct, then one
address for each slot below the root, in slot order. It also declares the statics of the class and a
delegate type for each slot, and holds what proxies and handlers need beside their wrapper class.
-/

namespace Bindery.FlatStruct

/-- The instance fields. -/
def fields (layout : Layout) : Code :=
  .line s!"internal {layout.root.abiName} _base;" ::
    layout.ownSlots.map fun slot => .line s!"internal IntPtr {slot.signature.fieldName};"

/-- The delegate type of one variant of a slot. -/
def delegateType (names : MemberNames) (ctx : Context) (visibility : String) (sig : Signature)
    (variant : String) : Code :=
  let delegate := names (.delegateType s!"{sig.delegateType}{variant}")
  [ .line s!"[UnmanagedFunctionPointer({ctx.settings.nativeClass}.CEF_CALLBACK)]",
    .line "#if !DEBUG",
    .line "[SuppressUnmanagedCodeSecurity]",
    .line "#endif",
    .line s!"{visibility} delegate {sig.targetReturn}{variant} {delegate}({sig.parameterList});",
    .blank ]

/-- The delegate types of all slots. Only the struct itself uses those of a proxy. -/
def delegateTypes (names : MemberNames) (ctx : Context) (cls : NativeClass) (layout : Layout) :
    Code :=
  let visibility := if (ctx.role cls).isProxy then "private" else "internal"
  layout.slots.flatMap fun slot =>
    (ctx.types.variants slot.signature.targetReturn).flatMap
      (delegateType names ctx visibility slot.signature)

/-- What the struct holds for the role of its class. -/
def roleMembers (names : MemberNames) (ctx : Context) (cls : NativeClass) (layout : Layout) :
    Code :=
  if (ctx.role cls).isProxy then ProxyClass.structMembersUnder names ctx layout
  else if (ctx.role cls).isHandler then HandlerClass.structMembersUnder names layout
  else []

/-- The struct, under given names for its members. -/
def body (names : MemberNames) (ctx : Context) (cls : NativeClass) (layout : Layout) : Code :=
  Code.concat [
    fields layout,
    [ .blank ],
    (ctx.naming.classStatics cls).flatMap fun sig =>
      ctx.directCallAs (names (.function sig.targetName)) sig,
    delegateTypes names ctx cls layout,
    roleMembers names ctx cls layout ]

/-- The file of a class's flat struct, under given names for its members. -/
def fileUnder (names : MemberNames) (ctx : Context) (cls : NativeClass) (layout : Layout) : Code :=
  Code.sourceFile ctx.settings.interopNamespace <| Code.concat [
    Code.usings ["System", "System.Diagnostics.CodeAnalysis", "System.Runtime.InteropServices",
      "System.Security"],
    [ .line s!"[StructLayout(LayoutKind.Sequential, Pack = {ctx.settings.nativeClass}.ALIGN)]",
      .line "[SuppressMessage(\"Microsoft.Design\", \"CA1049:TypesThatOwnNativeResourcesShouldBeDisposable\")]" ],
    Code.block s!"internal unsafe struct {layout.abiName}" (body names ctx cls layout) ]

/-- The file of a class's flat struct. -/
def file (ctx : Context) (cls : NativeClass) (layout : Layout) : Code :=
  fileUnder FlatMember.name ctx cls layout

end Bindery.FlatStruct
