import Bindery.Text.Search

/-! # Names at the binary interface

Logical names are written in camel case and their counterparts at the binary interface in lower
case with underscores. `abiCase` converts the first form into the second: it lower-cases the ASCII
letters and puts an underscore before an upper-case letter that follows a lower-case one. A digit
never starts a word, and the first letter counts as upper case whatever it is.
-/

namespace Bindery.Text

/-- ASCII lower-case letters, which alone can be followed by the start of a new word. -/
def isLowerLetter (c : Char) : Bool := 'a'.toNat ≤ c.toNat && c.toNat ≤ 'z'.toNat

/-- ASCII upper-case letters, which alone can start a new word. -/
def isUpperLetter (c : Char) : Bool := 'A'.toNat ≤ c.toNat && c.toNat ≤ 'Z'.toNat

/-- The characters after one that was a lower-case letter or not. -/
def abiTail : (afterLower : Bool) → List Char → List Char
  | _, [] => []
  | afterLower, c :: rest =>
    let written := c.toLower :: abiTail (isLowerLetter c) rest
    if afterLower && isUpperLetter c then '_' :: written else written

/-- A name in lower case with an underscore at each word boundary. -/
def abiCase : List Char → List Char
  | [] => []
  | c :: rest => c.toLower :: abiTail false rest

/-- The ending of the names of native structs. -/
def abiSuffix : List Char := ['_', 't']

/-- A native struct's name without its ending. -/
def withoutAbiSuffix (name : List Char) : List Char := (before? abiSuffix name).getD name

/-- A name without the first occurrence of `piece` and all that follows it. A name in which an
empty piece is sought, or one that lacks the piece, stays as it is. -/
def cutAt (piece name : List Char) : List Char :=
  if piece.isEmpty then name else (upTo? piece name).getD name

end Bindery.Text

namespace Bindery

/-- A logical name in the lower-case form of the binary interface. -/
def abiCase (name : String) : String := String.ofList (Text.abiCase name.toList)

/-- A native struct's name without its ending `_t`. -/
def withoutAbiSuffix (name : String) : String := String.ofList (Text.withoutAbiSuffix name.toList)

end Bindery
