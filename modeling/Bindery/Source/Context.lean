import Bindery.Classification
import Bindery.Code
import Bindery.Layout
import Bindery.Settings
import Bindery.Text.Xml

/-! # What generated files share

Generated files depend on a class, on its layout, and on the settings, classification and types of
the run. Two pieces occur in several of them: the declaration of a directly called function, and the
documentation comment.
-/

namespace Bindery

/-- What all files of a run are generated from. -/
structure Context where
  settings : Settings
  classification : Classification
  types : TypeMap

namespace Context

/-- How signatures are made in this run. -/
def naming (ctx : Context) : Naming := ⟨ctx.types, ctx.settings.abiPrefix⟩

/-- The role of a class. -/
def role (ctx : Context) (cls : NativeClass) : Role := ctx.classification.role cls.name

/-- The name of the wrapper of a class. -/
def wrapperName (ctx : Context) (cls : NativeClass) : String :=
  ctx.classification.displayName cls.name

/-- The declaration, under a given name, of a function that is called directly. -/
def directCallAs (ctx : Context) (name : String) (sig : Signature) : Code :=
  let native := ctx.settings.nativeClass
  [ .line s!"// {sig.name}",
    .line s!"[DllImport({native}.DllName, EntryPoint = \"{sig.entryPoint}\", CallingConvention = {native}.CEF_CALL)]",
    .line s!"public static extern {sig.targetReturn} {name}({sig.parameterList});",
    .blank ]

/-- The declaration of a function that is called directly. -/
def directCall (ctx : Context) (sig : Signature) : Code := ctx.directCallAs sig.targetName sig

end Context

namespace Code

/-- The comments that are worth a line: neither blank nor a lone slash. -/
def keptComments (comment : List String) : List String :=
  (comment.map trimmed).filter fun text => !text.isEmpty && text != "/"

/-- A documentation comment, or nothing when no comment is worth a line. -/
def documentation (comment : List String) : Code :=
  match keptComments comment with
  | [] => []
  | kept =>
    [.line "/// <summary>"] ++ (kept.map fun text => .line s!"/// {escapeXml text}") ++
      [.line "/// </summary>"]

end Code

end Bindery
