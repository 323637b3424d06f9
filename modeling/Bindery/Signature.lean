import Bindery.RootStruct
import Bindery.Text.AbiCase
import Bindery.TypeMap

/-! # Signatures

A signature is all that the generated files need to know about one function: what it is called on
either side, where it stands in a function table, and its types in the target language. There is one
way into a signature for each kind of function.
-/

namespace Bindery

/-- Where a function comes from. -/
inductive FunctionKind where
  /-- A function of the root struct. -/
  | baseCapability
  /-- A function called through the table of a class. -/
  | virtualMethod
  /-- A function of a class that is called directly. -/
  | classStatic
  /-- A free function. -/
  | freeFunction
  deriving DecidableEq, Repr, Inhabited

/-- The name of a kind. -/
def FunctionKind.name : FunctionKind → String
  | .baseCapability => "BaseCapability"
  | .virtualMethod => "Virtual"
  | .classStatic => "Static"
  | .freeFunction => "Global"

/-- A parameter in the target language. -/
structure TargetParameter where
  type : String
  name : String
  deriving DecidableEq, Inhabited

/-- A parameter as written in a declaration. -/
def TargetParameter.display (p : TargetParameter) : String := s!"{p.type} {p.name}"

/-- The name of the parameter that stands for the object a method is called on. -/
def selfName : String := "self"

/-- A function as the generated files see it. -/
structure Signature where
  kind : FunctionKind
  /-- The place in the function table; zero for functions that have none. -/
  slot : Nat
  name : String
  abiName : String
  /-- The field of the flat struct that holds the function's address. -/
  fieldName : String
  delegateType : String
  /-- The flat struct that the function belongs to. -/
  interfaceName : String
  /-- The name of the generated entry. -/
  targetName : String
  targetReturn : String
  parameters : List TargetParameter
  /-- The exported symbol of a function that is called directly. -/
  entryPoint : String
  comment : List String
  deriving DecidableEq, Inhabited

namespace Signature

/-- Whether a function belongs to the root struct. -/
def isBaseCapability (sig : Signature) : Bool := sig.kind = .baseCapability

/-- Whether a function has a place in a function table. -/
def isVirtual (sig : Signature) : Bool := sig.kind = .baseCapability || sig.kind = .virtualMethod

/-- Whether a function returns nothing. -/
def returnsVoid (sig : Signature) : Bool := sig.targetReturn = "void"

/-- The slot number in hexadecimal, which tells the generated names of one class apart. -/
def slotId (sig : Signature) : String := String.ofList (Nat.toDigits 16 sig.slot)

/-- The field that keeps the delegate of a slot alive. -/
def delegateSlot (sig : Signature) : String := s!"_ds{sig.slotId}"

/-- A parameter list as written in a declaration. -/
def declared (parameters : List TargetParameter) : String :=
  Text.joined ", " (parameters.map TargetParameter.display)

/-- The parameters as written in a declaration. -/
def parameterList (sig : Signature) : String := declared sig.parameters

/-- The parameters as written in a call. -/
def argumentList (sig : Signature) : String := Text.joined ", " (sig.parameters.map (·.name))

/-- The parameters without a leading `self`. -/
def instanceParameters (sig : Signature) : List TargetParameter :=
  match sig.parameters with
  | first :: rest => if first.name = selfName then rest else first :: rest
  | [] => []

/-- The parameters without `self`, as written in a declaration. -/
def instanceParameterList (sig : Signature) : String := declared sig.instanceParameters

/-- The names of the parameters without `self`. -/
def instanceArguments (sig : Signature) : List String := sig.instanceParameters.map (·.name)

/-- A signature in one line. -/
def display (sig : Signature) : String :=
  s!"{sig.targetReturn} {sig.targetName}({sig.parameterList})"

end Signature

/-- What signatures are made with: the type map, and what native names begin with. -/
structure Naming where
  types : TypeMap
  abiPrefix : String
  deriving Inhabited

namespace Naming

/-- The parameters of a function in the target language. -/
def parameters (naming : Naming) (f : NativeFunction) : List TargetParameter :=
  if f.takesNothing then []
  else f.parameters.map fun p => ⟨naming.types.map p.type, quoteName p.name⟩

/-- The parameter that stands for an object of a class. -/
def selfParameter (cls : NativeClass) : TargetParameter := ⟨s!"{cls.abiName}*", selfName⟩

/-- A method that a class declares, at a slot of the table. -/
def virtualMethod (naming : Naming) (f : NativeFunction) (declaring : NativeClass) (slot : Nat) :
    Signature where
  kind := .virtualMethod
  slot := slot
  name := f.name
  abiName := f.abiName
  fieldName := s!"_{f.abiName}"
  delegateType := s!"{f.abiName}_delegate"
  interfaceName := declaring.abiName
  targetName := f.abiName
  targetReturn := naming.types.map f.returnType
  parameters := selfParameter declaring :: naming.parameters f
  entryPoint := f.abiName
  comment := f.comment

/-- The entry name of a class's static. Where the class's own part of its struct name occurs in the
function's name, the name ends before it. -/
def staticName (naming : Naming) (f : NativeFunction) (cls : NativeClass) : String :=
  let name := Text.abiCase f.name.toList
  match Text.after? naming.abiPrefix.toList (Text.withoutAbiSuffix cls.abiName.toList) with
  | some own => String.ofList (Text.cutAt own name)
  | none => String.ofList name

/-- A static function of a class. -/
def classStatic (naming : Naming) (f : NativeFunction) (cls : NativeClass) : Signature where
  kind := .classStatic
  slot := 0
  name := f.name
  abiName := f.abiName
  fieldName := s!"_{f.abiName}"
  delegateType := s!"{f.abiName}_delegate"
  interfaceName := cls.abiName
  targetName := naming.staticName f cls
  targetReturn := naming.types.map f.returnType
  parameters := naming.parameters f
  entryPoint := f.abiName
  comment := f.comment

/-- The static functions of a class, in order. -/
def classStatics (naming : Naming) (cls : NativeClass) : List Signature :=
  cls.statics.map fun f => naming.classStatic f cls

/-- The entry name of a free function: its native name without the common beginning. -/
def freeName (naming : Naming) (f : NativeFunction) : String :=
  match Text.after? (naming.abiPrefix ++ "_").toList f.abiName.toList with
  | some rest => String.ofList rest
  | none => f.abiName

/-- A free function. -/
def freeFunction (naming : Naming) (f : NativeFunction) : Signature where
  kind := .freeFunction
  slot := 0
  name := f.name
  abiName := f.abiName
  fieldName := s!"_{f.abiName}"
  delegateType := s!"{f.abiName}_delegate"
  interfaceName := ""
  targetName := naming.freeName f
  targetReturn := naming.types.map f.returnType
  parameters := naming.parameters f
  entryPoint := f.abiName
  comment := f.comment

/-- A function of the root, as seen through a class. -/
def baseCapability (cls : NativeClass) (capability : Capability) (slot : Nat) : Signature where
  kind := .baseCapability
  slot := slot
  name := capability.name
  abiName := capability.abiName
  fieldName := s!"_base._{capability.abiName}"
  delegateType := s!"{capability.abiName}_delegate"
  interfaceName := cls.abiName
  targetName := capability.abiName
  targetReturn := capability.returnType
  parameters := [selfParameter cls]
  entryPoint := capability.abiName
  comment := []

end Naming

end Bindery
