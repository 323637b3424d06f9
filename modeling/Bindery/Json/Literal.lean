/-! # Reading string literals

A string literal is read one character at a time by a small machine. A fault is reported where the
text first stops being the beginning of a literal: `malformed` when a character cannot stand where
it does, `unfinished` when the text ends too early.
-/

namespace Bindery.Json

/-- Why a text is refused: it breaks the notation, it ends before the document does, or it is well
formed as far as it was read but has not the expected shape. -/
inductive Fault where
  | malformed
  | unfinished
  | mismatched
  deriving DecidableEq, Repr

/-- The value of a hexadecimal digit, upper or lower case. -/
def hexValue? (c : Char) : Option Nat :=
  if '0' ≤ c ∧ c ≤ '9' then some (c.toNat - '0'.toNat)
  else if 'a' ≤ c ∧ c ≤ 'f' then some (c.toNat - 'a'.toNat + 10)
  else if 'A' ≤ c ∧ c ≤ 'F' then some (c.toNat - 'A'.toNat + 10)
  else none

/-- Whether a text takes at least `n` bytes. -/
def hasBytes : Nat → List Char → Bool
  | 0, _ => true
  | _ + 1, [] => false
  | n + 1, c :: rest => hasBytes (n + 1 - c.utf8Size) rest

/-- The character that a one-letter escape stands for. -/
def escapeTarget? (c : Char) : Option Char :=
  match c with
  | '"' => some '"'
  | '\\' => some '\\'
  | '/' => some '/'
  | 'b' => some '\x08'
  | 'f' => some '\x0c'
  | 'n' => some '\n'
  | 'r' => some '\r'
  | 't' => some '\t'
  | _ => none

/-- Code units that must be followed by a trailing surrogate. -/
def isLeadingSurrogate (unit : Nat) : Bool := 0xD800 ≤ unit && unit ≤ 0xDBFF

/-- Code units that may only follow a leading surrogate. -/
def isTrailingSurrogate (unit : Nat) : Bool := 0xDC00 ≤ unit && unit ≤ 0xDFFF

/-- Where the reader of a literal stands. A leading surrogate that waits for its partner is kept
until the pair is complete. -/
inductive LiteralState where
  | plain
  | escaped
  | hex (leading : Option Nat) (count value : Nat)
  | expectEscape (leading : Nat)
  | expectUnit (leading : Nat)

/-- What a completed code unit does: it is a character, it awaits its partner, or it completes a
pair. When surrogates are not checked, every unit stands for some character. -/
def unitRead (paired : Bool) (leading : Option Nat) (unit : Nat) :
    Except Fault (LiteralState × List Char) :=
  if !paired then .ok (.plain, [Char.ofNat unit])
  else
    match leading with
    | none =>
      if isTrailingSurrogate unit then .error .malformed
      else if isLeadingSurrogate unit then .ok (.expectEscape unit, [])
      else .ok (.plain, [Char.ofNat unit])
    | some first =>
      if isTrailingSurrogate unit then
        .ok (.plain, [Char.ofNat (0x10000 + (first - 0xD800) * 0x400 + (unit - 0xDC00))])
      else .error .malformed

/-- Reads the rest of a literal after its opening quote. Answers its characters in reverse, put in
front of `done`, and the text after the closing quote. Surrogates have to come in pairs when
`paired` is set. -/
def scanLiteral (paired : Bool) :
    LiteralState → (done : List Char) → List Char → Except Fault (List Char × List Char)
  | _, _, [] => .error .unfinished
  | .plain, done, c :: rest =>
    if c = '"' then .ok (done, rest)
    else if c = '\\' then scanLiteral paired .escaped done rest
    else if c.toNat < 0x20 then .error .malformed
    else scanLiteral paired .plain (c :: done) rest
  | .escaped, done, c :: rest =>
    if c = 'u' then scanLiteral paired (.hex none 0 0) done rest
    else
      match escapeTarget? c with
      | some target => scanLiteral paired .plain (target :: done) rest
      | none => .error .malformed
  | .hex leading count value, done, c :: rest =>
    match hexValue? c with
    | none => if hasBytes (4 - count) (c :: rest) then .error .malformed else .error .unfinished
    | some digit =>
      if count < 3 then scanLiteral paired (.hex leading (count + 1) (value * 16 + digit)) done rest
      else
        match unitRead paired leading (value * 16 + digit) with
        | .error fault => .error fault
        | .ok (state, read) => scanLiteral paired state (read ++ done) rest
  | .expectEscape leading, done, c :: rest =>
    if c = '\\' then scanLiteral paired (.expectUnit leading) done rest else .error .malformed
  | .expectUnit leading, done, c :: rest =>
    if c = 'u' then scanLiteral paired (.hex (some leading) 0 0) done rest else .error .malformed

end Bindery.Json
