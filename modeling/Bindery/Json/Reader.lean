import Bindery.Json.Number

/-! # Reading documents of a known shape

A reader takes a value of its shape from the front of a text and answers the text that follows.
Reading goes strictly from left to right and stops at the first thing that is wrong, so a text with
several faults is refused for the one that comes first. Members that a shape does not know are
skipped whatever they hold.
-/

namespace Bindery.Json

/-- A reader of values from the front of a text. -/
abbrev Reader (α : Type) := StateT (List Char) (Except Fault) α

namespace Reader

/-- The characters that may stand between tokens. -/
def isSpace (c : Char) : Bool := c == ' ' || c == '\n' || c == '\t' || c == '\r'

/-- Refuses the text. -/
def fail {α : Type} (fault : Fault) : Reader α := fun _ => .error fault

/-- The first character after the blanks, which stays where it is. -/
def peek : Reader (Option Char) := fun s =>
  let rest := s.dropWhile isSpace
  .ok (rest.head?, rest)

/-- Steps over one character. -/
def advance : Reader Unit := fun s => .ok ((), s.drop 1)

/-- The rest of a fixed word. -/
def word : List Char → Reader Unit
  | [], s => .ok ((), s)
  | _ :: _, [] => .error .unfinished
  | w :: rest, c :: s => if w = c then word rest s else .error .malformed

/-- The rest of a string literal after its opening quote. -/
def literal : Reader String := fun s =>
  (scanLiteral true .plain [] s).map fun read => (String.ofList read.1.reverse, read.2)

/-- Steps over the rest of a string literal without looking at its surrogates. -/
def skipLiteral : Reader Unit := fun s =>
  (scanLiteral false .plain [] s).map fun read => ((), read.2)

/-- Refuses the value at the front for its kind, once it has been read far enough to know the kind.
Scalars are read to their end first; of lists and objects only the bracket is seen. -/
def refuse {α : Type} : Reader α := do
  let number : Reader α := fun s =>
    match scanNumeral .unfinished s with
    | .error fault => .error fault
    | .ok (numeral, _) => if numeral.isFinite then .error .mismatched else .error .malformed
  match ← peek with
  | none => fail .unfinished
  | some c =>
    match c with
    | 'n' => advance; word ['u', 'l', 'l']; fail .mismatched
    | 't' => advance; word ['r', 'u', 'e']; fail .mismatched
    | 'f' => advance; word ['a', 'l', 's', 'e']; fail .mismatched
    | '-' => advance; number
    | '"' => advance; let _ ← literal; fail .mismatched
    | '[' => fail .mismatched
    | c =>
      if c = '\x7b' then fail .mismatched
      else if isDigit c then number
      else fail .malformed

/-- A truth value. -/
def bool : Reader Bool := do
  match ← peek with
  | some 't' => advance; word ['r', 'u', 'e']; return true
  | some 'f' => advance; word ['a', 'l', 's', 'e']; return false
  | _ => refuse

/-- A string. -/
def text : Reader String := do
  match ← peek with
  | some '"' => advance; literal
  | _ => refuse

/-- A string that a second reading has to accept. -/
def textVia {α : Type} (read : String → Option α) : Reader α := do
  match read (← text) with
  | some value => return value
  | none => fail .mismatched

/-- A value or `null`. -/
def optional {α : Type} (item : Reader α) : Reader (Option α) := do
  match ← peek with
  | some 'n' => advance; word ['u', 'l', 'l']; return none
  | _ => return some (← item)

/-- The colon after a key. -/
def colon : Reader Unit := do
  match ← peek with
  | some ':' => advance
  | some _ => fail .malformed
  | none => fail .unfinished

/-- Whether another item follows in a list; at the closing bracket there is none. A comma has to be
followed by an item. -/
def moreItems (first : Bool) : Reader Bool := do
  match ← peek with
  | none => fail .unfinished
  | some ']' => return false
  | some c =>
    if first then return true
    else if c = ',' then
      advance
      match ← peek with
      | none => fail .unfinished
      | some ']' => fail .malformed
      | some _ => return true
    else fail .malformed

/-- Whether another member follows in an object; its key's opening quote is then next. -/
def moreMembers (first : Bool) : Reader Bool := do
  match ← peek with
  | none => fail .unfinished
  | some c =>
    if c = '\x7d' then return false
    else if first then
      if c = '"' then return true else fail .malformed
    else if c = ',' then
      advance
      match ← peek with
      | none => fail .unfinished
      | some '"' => return true
      | some _ => fail .malformed
    else fail .malformed

/-- The items of a list up to its closing bracket, of which there are fewer than `fuel`. -/
def items {α : Type} (item : Reader α) : (fuel : Nat) → (first : Bool) → Reader (List α)
  | 0, _ => fail .unfinished
  | fuel + 1, first => do
    if ← moreItems first then
      let head ← item
      return head :: (← items item fuel false)
    else
      advance
      return []

/-- A list. Each item takes at least one character, so the length of the text bounds their
number. -/
def list {α : Type} (item : Reader α) : Reader (List α) := do
  match ← peek with
  | some '[' =>
    advance
    let rest ← get
    items item (rest.length + 1) true
  | _ => refuse

/-- The members of an object up to its closing brace, of which there are fewer than `fuel`. -/
def members {α : Type} (item : Reader α) :
    (fuel : Nat) → (first : Bool) → Reader (List (String × α))
  | 0, _ => fail .unfinished
  | fuel + 1, first => do
    if ← moreMembers first then
      advance
      let key ← literal
      colon
      let value ← item
      return (key, value) :: (← members item fuel false)
    else
      advance
      return []

/-- An object of any keys with values of one shape. A key may be repeated. -/
def entries {α : Type} (item : Reader α) : Reader (List (String × α)) := do
  match ← peek with
  | some c =>
    if c = '\x7b' then
      advance
      let rest ← get
      members item (rest.length + 1) true
    else refuse
  | none => refuse

/-- The kinds of bracket that enclose a skipped value. -/
inductive Bracket where
  | square
  | curly
  deriving DecidableEq

/-- The character that closes a bracket. -/
def Bracket.closer : Bracket → Char
  | .square => ']'
  | .curly => '\x7d'

/-- Steps over a key and its colon. -/
def skipKey : Reader Unit := do
  match ← peek with
  | some '"' => advance; skipLiteral; colon
  | some _ => fail .malformed
  | none => fail .unfinished

/-- Steps over a value without brackets, or over the opening bracket of one that has them. -/
def skipOpening : Reader (Option Bracket) := do
  let number : Reader (Option Bracket) := fun s =>
    (scanNumeral .malformed s).map fun read => (none, read.2)
  match ← peek with
  | none => fail .unfinished
  | some c =>
    match c with
    | 'n' => advance; word ['u', 'l', 'l']; return none
    | 't' => advance; word ['r', 'u', 'e']; return none
    | 'f' => advance; word ['a', 'l', 's', 'e']; return none
    | '-' => advance; number
    | '"' => advance; skipLiteral; return none
    | '[' => advance; return some .square
    | c =>
      if c = '\x7b' then do advance; return some .curly
      else if isDigit c then number
      else fail .malformed

/-- Steps over the rest of a skipped value inside the brackets `brackets`, innermost first: either a
value is next, or (`after`) one has just ended. -/
def skipWithin : (fuel : Nat) → (brackets : List Bracket) → (after : Bool) → Reader Unit
  | 0, _, _ => fail .unfinished
  | _ + 1, [], true => pure ()
  | fuel + 1, inner :: outer, true => do
    match ← peek with
    | none => fail .unfinished
    | some c =>
      if c = inner.closer then
        advance
        skipWithin fuel outer true
      else if c = ',' then
        advance
        if inner = .curly then skipKey
        skipWithin fuel (inner :: outer) false
      else fail .malformed
  | fuel + 1, brackets, false => do
    match ← skipOpening with
    | none => skipWithin fuel brackets true
    | some inner =>
      match ← peek with
      | none => fail .unfinished
      | some c =>
        if c = inner.closer then skipWithin fuel (inner :: brackets) true
        else
          if inner = .curly then skipKey
          skipWithin fuel (inner :: brackets) false

/-- Steps over a value of any kind and depth. -/
def skip : Reader Unit := do
  let rest ← get
  skipWithin (2 * rest.length + 2) [] false

/-- Reads a whole text as one document. Only blanks may follow it. -/
def document {α : Type} (reader : Reader α) (s : List Char) : Except Fault α :=
  match reader s with
  | .error fault => .error fault
  | .ok (value, rest) => if (rest.dropWhile isSpace).isEmpty then .ok value else .error .malformed

end Reader

end Bindery.Json
