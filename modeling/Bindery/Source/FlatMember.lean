/-! # Members of flat structs

Two generated files have to agree on the members of a flat struct: the file of the struct, which
declares them, and the file of the wrapper class, which uses them by name. Both take the names from
here.
-/

namespace Bindery

/-- What a flat struct has beside its fields, each by its plain name. -/
inductive FlatMember where
  | delegateType (plain : String)
  /-- A static function. -/
  | function (plain : String)
  deriving DecidableEq

namespace FlatMember

/-- The function that makes a flat struct for a handler. -/
def alloc : FlatMember := .function "Alloc"

/-- The function that takes a handler's flat struct back. -/
def free : FlatMember := .function "Free"

/-- What a member is called. -/
def name : FlatMember → String
  | .delegateType plain => plain
  | .function plain => plain

end FlatMember

/-- What the members of a flat struct are called. -/
abbrev MemberNames := FlatMember → String

end Bindery
