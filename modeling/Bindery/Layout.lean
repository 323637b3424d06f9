import Bindery.Ancestry
import Bindery.Signature

/-! # Layouts of function tables

The table of a class holds the functions of its root and then, from the root down to the class
itself, the virtual functions of every class of its ancestry in declaration order. The fields of the
generated flat struct follow the slots exactly, so the order is the binary contract.
-/

namespace Bindery

/-- A place in a function table. -/
structure Slot where
  index : Nat
  signature : Signature
  deriving DecidableEq, Inhabited

/-- The function table of a class, with the statics that are called beside it. -/
structure Layout where
  className : String
  abiName : String
  root : RootStruct
  /-- Struct names from the class next to the root down to the class itself. -/
  chain : List String
  slots : List Slot
  statics : List Signature
  deriving DecidableEq

namespace Slot

/-- Whether a slot belongs to the root. -/
def isBaseCapability (slot : Slot) : Bool := slot.signature.isBaseCapability

/-- A slot in one line. -/
def display (slot : Slot) : String :=
  let mark := if slot.isBaseCapability then " [base]" else ""
  s!"[{slot.index}] {slot.signature.fieldName} {slot.signature.display}{mark}"

end Slot

namespace Layout

/-- The functions of the ancestry below the root, each with the class that declares it. -/
def methods (chain : List NativeClass) : List (NativeClass × NativeFunction) :=
  chain.flatMap fun cls => cls.virtuals.map fun f => (cls, f)

/-- The slots of the root's functions, seen through a class. -/
def baseSlots (cls : NativeClass) (root : RootStruct) : List Slot :=
  root.capabilities.mapIdx fun index capability =>
    ⟨index, Naming.baseCapability cls capability index⟩

/-- The slots of methods, numbered from `start`. -/
def methodSlots (naming : Naming) (start : Nat) (methods : List (NativeClass × NativeFunction)) :
    List Slot :=
  methods.mapIdx fun index method =>
    ⟨start + index, naming.virtualMethod method.2 method.1 (start + index)⟩

/-- The layout of a class of known ancestry. -/
def ofAncestry (naming : Naming) (cls : NativeClass) (ancestry : Ancestry) : Layout where
  className := cls.name
  abiName := cls.abiName
  root := ancestry.root
  chain := ancestry.chain.map (·.abiName)
  slots := baseSlots cls ancestry.root ++
    methodSlots naming ancestry.root.capabilities.length (methods ancestry.chain)
  statics := naming.classStatics cls

/-- The number of slots. -/
def size (layout : Layout) : Nat := layout.slots.length

/-- The slots of the root. -/
def rootSlots (layout : Layout) : List Slot := layout.slots.filter Slot.isBaseCapability

/-- The slots below the root. -/
def ownSlots (layout : Layout) : List Slot :=
  layout.slots.filter fun slot => !slot.isBaseCapability

/-- The slots that the class itself adds. -/
def declaredSlots (layout : Layout) : List Slot :=
  layout.ownSlots.filter fun slot => slot.signature.interfaceName = layout.abiName

/-- The first slot of a function with a logical name. -/
def slotNamed? (layout : Layout) (name : String) : Option Slot :=
  layout.slots.find? (·.signature.name = name)

/-- Whether the class derives directly from the root. -/
def isRootChild (layout : Layout) : Bool := layout.chain.length = 1

/-- Whether objects of the class are counted by reference. -/
def isRefCounted (layout : Layout) : Bool := layout.root = .refCounted

/-- A layout in lines, for people. -/
def displayLines (layout : Layout) : List String :=
  [s!"VTable for {layout.className} ({layout.abiName}) : {layout.root.abiName}",
    "  Chain: " ++ Text.joined " -> " layout.chain,
    s!"  Slots: {layout.size}"] ++
  (layout.slots.map fun slot => s!"  {slot.display}") ++
  (layout.statics.map fun sig => s!"  [static] {sig.display}")

/-- A layout as a text of lines. -/
def display (layout : Layout) : String := String.join (layout.displayLines.map (· ++ "\n"))

end Layout

namespace NativeApi

/-- The layout of a class. -/
def layout (api : NativeApi) (naming : Naming) (cls : NativeClass) : Except Failure Layout :=
  (api.ancestry cls).map (Layout.ofAncestry naming cls)

end NativeApi

end Bindery
