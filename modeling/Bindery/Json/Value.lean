/-! # JSON values and their text

The values that documents are written from, and the one text each of them has: no blanks, members
in the order given, and in a string an escape only where the notation asks for one.
-/

namespace Bindery.Json

/-- A JSON value. A number is kept as it is written. -/
inductive Value where
  | null
  | bool (value : Bool)
  | number (written : String)
  | text (value : String)
  | list (items : List Value)
  | object (members : List (String × Value))
  deriving Inhabited

namespace Value

/-- A natural number, in decimal digits. -/
def ofNat (n : Nat) : Value := .number (toString n)

/-- A list of strings. -/
def texts (items : List String) : Value := .list (items.map .text)

/-- The lower-case hexadecimal digit of a number below sixteen. -/
def hexDigit (n : Nat) : Char := if n < 10 then Char.ofNat (48 + n) else Char.ofNat (87 + n)

/-- A character inside a string literal: quotes, backslashes and control characters are escaped. -/
def escaped (c : Char) : List Char :=
  match c with
  | '"' => ['\\', '"']
  | '\\' => ['\\', '\\']
  | '\n' => ['\\', 'n']
  | '\r' => ['\\', 'r']
  | '\t' => ['\\', 't']
  | c =>
    if c.toNat = 8 then ['\\', 'b']
    else if c.toNat = 12 then ['\\', 'f']
    else if c.toNat < 32 then
      ['\\', 'u', '0', '0', hexDigit (c.toNat / 16), hexDigit (c.toNat % 16)]
    else [c]

/-- A string literal with its quotes. -/
def literal (s : String) : List Char := '"' :: s.toList.flatMap escaped ++ ['"']

/-- Written parts with a comma between neighbours. -/
def separated : List (List Char) → List Char
  | [] => []
  | [part] => part
  | part :: rest => part ++ ',' :: separated rest

mutual

/-- The text of a value. -/
def chars : Value → List Char
  | .null => ['n', 'u', 'l', 'l']
  | .bool true => ['t', 'r', 'u', 'e']
  | .bool false => ['f', 'a', 'l', 's', 'e']
  | .number written => written.toList
  | .text s => literal s
  | .list items => '[' :: separated (itemChars items) ++ [']']
  | .object members => '\x7b' :: separated (memberChars members) ++ ['\x7d']

/-- The texts of the items of a list. -/
def itemChars : List Value → List (List Char)
  | [] => []
  | item :: rest => item.chars :: itemChars rest

/-- The texts of the members of an object, each a key, a colon and a value. -/
def memberChars : List (String × Value) → List (List Char)
  | [] => []
  | (key, value) :: rest => (literal key ++ ':' :: value.chars) :: memberChars rest

end

/-- A value as a string. -/
def render (v : Value) : String := String.ofList v.chars

end Value

end Bindery.Json
