import Bindery.Text.Blank
import Bindery.Text.Search
import Bindery.Json.Literal

/-! # Roles of classes

A class may receive calls (`HANDLER`: managed code implements its functions and native code calls
them), produce calls (`PROXY`: managed code calls its native functions), or both, or neither. A role
is a byte of which two bits have a meaning; the others are kept and written as they were read.

A written role is a list of flags with bars between them. A flag is a name or a hexadecimal number
of bits; blanks around a flag do not count, and a blank text is the role without bits.
-/

namespace Bindery

/-- The role bits of a class. -/
structure Role where
  bits : UInt8
  deriving DecidableEq, Repr

namespace Role

/-- The role without bits. -/
def none : Role := ⟨0⟩

/-- Managed code implements the class. -/
def handler : Role := ⟨1⟩

/-- Managed code calls the class. -/
def proxy : Role := ⟨2⟩

/-- The bits of both roles. -/
def union (a b : Role) : Role := ⟨a.bits ||| b.bits⟩

/-- Whether all bits of `part` are set. -/
def includes (role part : Role) : Bool := role.bits &&& part.bits == part.bits

/-- Whether managed code implements the class. -/
def isHandler (role : Role) : Bool := role.includes handler

/-- Whether managed code calls the class. -/
def isProxy (role : Role) : Bool := role.includes proxy

/-- Whether no bit is set, known or unknown. -/
def isEmpty (role : Role) : Bool := role.bits == 0

instance : Inhabited Role := ⟨none⟩

/-- The roles by name, for a reader of the generated files. -/
def display (role : Role) : String :=
  match role.isProxy, role.isHandler with
  | true, true => "PROXY+HANDLER"
  | true, false => "PROXY"
  | false, true => "HANDLER"
  | false, false => "NONE"

/-- Lower-case hexadecimal digits of a number. -/
def hexDigits (n : Nat) : List Char := Nat.toDigits 16 n

/-- The written form: the names of the set flags, then the bits without a name. -/
def written (role : Role) : String :=
  let names :=
    (if role.isHandler then ["HANDLER"] else []) ++ (if role.isProxy then ["PROXY"] else [])
  let others := role.bits &&& ~~~(handler.union proxy).bits
  let rest := if others == 0 then [] else ["0x" ++ String.ofList (hexDigits others.toNat)]
  Text.joined " | " (names ++ rest)

/-- The number that hexadecimal digits write, if there is one and it fits into a byte. -/
def hexByte? (digits : List Char) : Option UInt8 :=
  if digits.isEmpty then Option.none
  else
    let step (total : Option Nat) (c : Char) : Option Nat := do
      let next := (← total) * 16 + (← Json.hexValue? c)
      if next < 256 then some next else Option.none
    (digits.foldl step (some 0)).map Nat.toUInt8

/-- One flag: a name, or bits in hexadecimal after `0x` and perhaps a plus sign. -/
def ofFlag? (flag : List Char) : Option Role :=
  match Text.after? ['0', 'x'] flag with
  | some digits => (hexByte? ((Text.after? ['+'] digits).getD digits)).map Role.mk
  | Option.none =>
    if flag = "HANDLER".toList then some handler
    else if flag = "PROXY".toList then some proxy
    else Option.none

/-- Reads a written role. -/
def ofText? (s : String) : Option Role :=
  if (Text.trim s.toList).isEmpty then some none
  else
    (Text.splitOn '|' s.toList).foldl
      (fun total part => do return (← total).union (← ofFlag? (Text.trim part))) (some none)

end Role

end Bindery
