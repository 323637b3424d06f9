import Bindery.Text.Blank

/-! # The native interface

A native interface is given as a list of classes and a list of free functions. A class has a logical
name and the name of the struct that holds its function table, names its parent in both ways, and
lists the functions that native code provides for it.
-/

namespace Bindery

/-- A parameter, with its type as spelled in the native header. -/
structure Parameter where
  type : String
  name : String
  deriving DecidableEq, Inhabited

/-- A native function. The parameter of a method that stands for the object itself is not listed. -/
structure NativeFunction where
  name : String
  abiName : String
  returnType : String
  parameters : List Parameter
  isStatic : Bool
  comment : List String
  deriving DecidableEq, Inhabited

/-- A native class. -/
structure NativeClass where
  name : String
  abiName : String
  parentName : String
  parentAbiName : String
  statics : List NativeFunction
  virtuals : List NativeFunction
  comment : List String
  deriving DecidableEq, Inhabited

/-- Everything that a generator is told about the native side. -/
structure NativeApi where
  classes : List NativeClass
  functions : List NativeFunction
  deriving DecidableEq, Inhabited

namespace Parameter

/-- A parameter as written in a declaration. -/
def display (p : Parameter) : String := s!"{p.type} {p.name}"

end Parameter

namespace NativeFunction

/-- Whether a function takes nothing: it has no parameters, or the single nameless `void`. -/
def takesNothing (f : NativeFunction) : Bool :=
  match f.parameters with
  | [] => true
  | [p] => Text.trim p.type.toList == "void".toList && p.name.isEmpty
  | _ => false

end NativeFunction

namespace NativeClass

/-- A class without functions. -/
def bare (name abiName parentName parentAbiName : String) : NativeClass :=
  ⟨name, abiName, parentName, parentAbiName, [], [], []⟩

/-- A class as shown in lists. -/
def display (cls : NativeClass) : String :=
  if cls.parentName.isEmpty then s!"{cls.name} ({cls.abiName})"
  else s!"{cls.name} ({cls.abiName}) : {cls.parentName}"

end NativeClass

namespace NativeApi

/-- The interface without classes and functions. -/
def empty : NativeApi := ⟨[], []⟩

/-- The first class with a logical name. -/
def classNamed? (api : NativeApi) (name : String) : Option NativeClass :=
  api.classes.find? (·.name = name)

/-- The first class with a struct name. -/
def classWithAbiName? (api : NativeApi) (abiName : String) : Option NativeClass :=
  api.classes.find? (·.abiName = abiName)

/-- The classes by logical name; those of one name keep their order. -/
def sortedClasses (api : NativeApi) : List NativeClass :=
  api.classes.mergeSort fun a b => a.name ≤ b.name

end NativeApi

end Bindery
