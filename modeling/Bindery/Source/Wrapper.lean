import Bindery.Source.HandlerClass
import Bindery.Source.ProxyClass

/-! # Wrapper files

The wrapper file of a class holds its proxy or its handler, as the class's role asks.
-/

namespace Bindery.Wrapper

/-- The file of a class's wrapper. -/
def file (ctx : Context) (cls : NativeClass) (layout : Layout) : Code :=
  Code.sourceFile ctx.settings.wrapperNamespace <|
    Code.usings ["System", "System.Collections.Generic", "System.Diagnostics",
      "System.Runtime.InteropServices", "System.Threading", ctx.settings.interopNamespace] ++
    ((ctx.classification.overview cls.name).map fun text => .line s!"// {text}") ++
    Code.documentation cls.comment ++
    if (ctx.role cls).isProxy then ProxyClass.wrapper ctx cls layout
    else if (ctx.role cls).isHandler then HandlerClass.wrapper ctx cls layout
    else []

end Bindery.Wrapper
