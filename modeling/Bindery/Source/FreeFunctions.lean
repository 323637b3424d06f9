import Bindery.Source.Context

/-! # The file of free functions

All free functions of the native library are declared in one static class.
-/

namespace Bindery.FreeFunctions

/-- The static class that all files of free functions and constants are parts of. -/
def nativeClassFile (ctx : Context) (body : Code) : Code :=
  Code.sourceFile ctx.settings.interopNamespace <|
    Code.usings ["System", "System.Runtime.InteropServices", "System.Diagnostics.CodeAnalysis"] ++
    Code.block s!"internal static unsafe partial class {ctx.settings.nativeClass}" body

/-- The file that declares the free functions. -/
def file (ctx : Context) (functions : List NativeFunction) : Code :=
  nativeClassFile ctx (functions.flatMap fun f => ctx.directCall (ctx.naming.freeFunction f))

end Bindery.FreeFunctions
