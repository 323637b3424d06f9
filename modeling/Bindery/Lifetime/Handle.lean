/-! # Native handles

Objects that native code and managed code share are known by the address of their native block.
-/

namespace Bindery.Lifetime

/-- The address of a block that native code sees. -/
structure Handle where
  address : Nat
  deriving DecidableEq, Repr

namespace Handle

/-- The handle of nothing. -/
def null : Handle := ⟨0⟩

/-- Whether a handle is that of nothing. -/
def isNull (handle : Handle) : Bool := handle.address == 0

/-- A handle in hexadecimal digits. -/
def display (handle : Handle) : String :=
  "0x" ++ String.ofList (Nat.toDigits 16 handle.address)

/-- A handle as it appears among the fields of an object. -/
def fieldText (handle : Handle) : String := s!"NativeHandle({handle.address})"

end Handle

/-- Why an operation on a shared object is refused. -/
inductive Fault where
  | nullHandle
  | invalidSelf (expected actual : Handle)
  | notFound (handle : Handle)
  | released (handle : Handle)
  | unbalanced (handle : Handle)
  deriving DecidableEq, Repr

/-- The message of a fault. -/
def Fault.message : Fault → String
  | .nullHandle => "native handle is null"
  | .invalidSelf expected actual =>
    s!"invalid self reference: expected {expected.display}, got {actual.display}"
  | .notFound handle => s!"no live object registered for {handle.display}"
  | .released handle => s!"object {handle.display} is already released"
  | .unbalanced handle => s!"release without a matching retain on {handle.display}"

end Bindery.Lifetime
