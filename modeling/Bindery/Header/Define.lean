import Bindery.Failure
import Bindery.Text.Blank
import Bindery.Text.Search

/-! # Constants in headers

A header defines a constant by `#define` at the start of a line, blanks, the name, blanks and the
value. The value is the rest of the line without the blanks at its end. The blanks in front of it
may hold line ends, so a definition without a value on its own line takes the line that follows.
-/

namespace Bindery.Header

/-- What every definition begins with. -/
def defineWord : List Char := "#define".toList

/-- What follows one or more blanks, where there is at least one. -/
def afterBlanks? (s : List Char) : Option (List Char) :=
  match s with
  | c :: _ => if Text.isBlank c then some (Text.trimStart s) else none
  | [] => none

/-- The value that a definition gives, read from what follows the name. -/
def valueAfterName? (s : List Char) : Option (List Char) :=
  (afterBlanks? s).map fun rest => Text.trimEnd (rest.takeWhile (· ≠ '\n'))

/-- The value of a name that is defined right here. Of the blanks between `#define` and the name at
least one and as many as possible belong to neither. -/
def definitionAt? (name s : List Char) : Option (List Char) := do
  let rest ← Text.after? defineWord s
  let blanks := (rest.takeWhile Text.isBlank).length
  (List.range blanks).reverse.findSome? fun kept => do
    valueAfterName? (← Text.after? name (rest.drop (kept + 1)))

/-- The value of the first definition of a name. -/
def firstDefinition? (name : List Char) : (lineStart : Bool) → List Char → Option (List Char)
  | _, [] => none
  | lineStart, c :: rest =>
    match if lineStart then definitionAt? name (c :: rest) else none with
    | some value => some value
    | none => firstDefinition? name (c = '\n') rest

/-- The value of a constant, as written in a header. -/
def constant (header name : String) : Except Failure String :=
  match firstDefinition? name.toList true header.toList with
  | some value => .ok (String.ofList value)
  | none => .error (.missingConstant name)

end Bindery.Header
