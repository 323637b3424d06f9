import Bindery.Proofs.Layout.Extension
import Bindery.Proofs.Source.Agreement

/-! # The spellings that planning maps

Planning writes its warnings from lists of spellings, which stand beside the functions that map
types. The lists are those of what these functions map: a signature has the targets of its listed
spellings for types, in order, and so have the signatures of a layout and those that the files
declare (`types_ofAncestry`, `types_artifacts`). No other spelling is mapped, as what is made with
two type maps is the same wherever the listed spellings have the same targets in both
(`Context.Alike.ofAncestry_eq`, `Context.Alike.artifacts_eq`).
-/

namespace Bindery

namespace Signature

/-- The types of a method: those of its parameters behind the object itself, and what it returns. -/
def methodTypes (sig : Signature) : List String :=
  sig.parameters.tail.map (·.type) ++ [sig.targetReturn]

/-- The types of a directly called function: what it returns, and those of its parameters. -/
def directTypes (sig : Signature) : List String :=
  sig.targetReturn :: sig.parameters.map (·.type)

end Signature

namespace Naming

variable (naming : Naming) (f : NativeFunction) (cls : NativeClass)

theorem types_parameters :
    (naming.parameters f).map (·.type) = f.parameterSpellings.map naming.types.map := by
  unfold parameters NativeFunction.parameterSpellings
  split
  · rfl
  · rw [List.map_map, List.map_map]
    rfl

theorem methodTypes_virtualMethod (slot : Nat) :
    (naming.virtualMethod f cls slot).methodTypes = f.methodSpellings.map naming.types.map := by
  rw [NativeFunction.methodSpellings, List.map_append, ← types_parameters]
  rfl

theorem directTypes_classStatic :
    (naming.classStatic f cls).directTypes = f.directSpellings.map naming.types.map := by
  rw [NativeFunction.directSpellings, List.map_cons, ← types_parameters]
  rfl

theorem directTypes_freeFunction :
    (naming.freeFunction f).directTypes = f.directSpellings.map naming.types.map := by
  rw [NativeFunction.directSpellings, List.map_cons, ← types_parameters]
  rfl

theorem types_classStatics : (naming.classStatics cls).flatMap Signature.directTypes =
    cls.staticSpellings.map naming.types.map := by
  simp only [classStatics, NativeClass.staticSpellings, List.flatMap_map, List.map_flatMap,
    directTypes_classStatic]

end Naming

namespace Layout

variable (naming : Naming)

/-- The types of methods are the targets of their spellings, wherever their slots are. -/
theorem types_methodSlots (start : Nat) (methods : List (NativeClass × NativeFunction)) :
    (methodSlots naming start methods).flatMap (·.signature.methodTypes) =
      (methods.flatMap fun method => method.2.methodSpellings).map naming.types.map := by
  have each : (methodSlots naming start methods).map (·.signature.methodTypes) =
      methods.map fun method => method.2.methodSpellings.map naming.types.map := by
    refine List.ext_getElem (by simp [methodSlots]) fun index _ _ => ?_
    simp only [methodSlots, List.getElem_map, List.getElem_mapIdx]
    exact naming.methodTypes_virtualMethod _ _ _
  rw [List.flatMap_def, each, List.map_flatMap, List.flatMap_def]

/-- The types in a layout are the targets of its listed spellings. -/
theorem types_ofAncestry (cls : NativeClass) (ancestry : Ancestry) :
    (ofAncestry naming cls ancestry).ownSlots.flatMap (·.signature.methodTypes) ++
        (ofAncestry naming cls ancestry).statics.flatMap Signature.directTypes =
      (ancestry.spellings cls).map naming.types.map := by
  have spellings : (methods ancestry.chain).flatMap (fun method => method.2.methodSpellings) =
      ancestry.chain.flatMap fun ancestor =>
        ancestor.virtuals.flatMap NativeFunction.methodSpellings := by
    simp only [methods, List.flatMap_assoc, List.flatMap_map]
  rw [ownSlots_ofAncestry, types_methodSlots, spellings, Ancestry.spellings, List.map_append,
    ← naming.types_classStatics]
  rfl

end Layout

namespace Generator

/-- The types in the signatures that files declare are the targets of the listed spellings: the
statics of each class in its flat struct, the free functions, and the statics of each class in its
wrapper where that is a proxy. -/
theorem types_artifacts (ctx : Context) (functions : List NativeFunction)
    (layouts : List (NativeClass × Layout)) :
    (layouts.flatMap fun entry =>
        (ctx.naming.classStatics entry.1).flatMap Signature.directTypes) ++
      (functions.flatMap fun f => (ctx.naming.freeFunction f).directTypes) ++
      (layouts.flatMap fun entry =>
        if (ctx.role entry.1).isProxy then
          (ctx.naming.classStatics entry.1).flatMap Signature.directTypes
        else []) =
      (artifactSpellings ctx functions layouts).map ctx.types.map := by
  simp only [artifactSpellings, List.map_append, List.map_flatMap, Naming.types_classStatics,
    Naming.directTypes_freeFunction, apply_ite (List.map _), List.map_nil]
  rfl

end Generator

end Bindery
