import Bindery.Json.Literal

/-! # Reading numbers

No document holds a number, so a number is only ever read to be skipped or refused. It still has to
be well formed, and where it stands in place of a member that is known it must lie in the range of
a double.
-/

namespace Bindery.Json

/-- The parts of a number: its digits before and after the point, and its exponent. -/
structure Numeral where
  whole : List Char
  fraction : List Char
  exponentNegative : Bool
  exponent : List Char

/-- The ASCII decimal digits. -/
def isDigit (c : Char) : Bool := '0'.toNat ≤ c.toNat && c.toNat ≤ '9'.toNat

/-- At least one digit. A text that ends instead is refused for the reason `ended`. -/
def scanDigits (ended : Fault) (s : List Char) : Except Fault (List Char × List Char) :=
  match s with
  | [] => .error ended
  | c :: rest =>
    if isDigit c then .ok (c :: rest.takeWhile isDigit, rest.dropWhile isDigit)
    else .error .malformed

/-- The digits before the point: a zero stands alone. -/
def scanWhole (ended : Fault) (s : List Char) : Except Fault (List Char × List Char) :=
  match s with
  | '0' :: rest =>
    match rest with
    | [] => .ok (['0'], [])
    | c :: _ => if isDigit c then .error .malformed else .ok (['0'], rest)
  | _ => scanDigits ended s

/-- The digits after the point, where there is one. -/
def scanFraction (ended : Fault) (s : List Char) : Except Fault (List Char × List Char) :=
  match s with
  | '.' :: rest => scanDigits ended rest
  | _ => .ok ([], s)

/-- The exponent's sign and digits, where there is one. -/
def scanExponent (ended : Fault) (s : List Char) : Except Fault (Bool × List Char × List Char) :=
  let digits (negative : Bool) (rest : List Char) :=
    (scanDigits ended rest).map fun read => (negative, read.1, read.2)
  let signed (rest : List Char) :=
    match rest with
    | '+' :: rest => digits false rest
    | '-' :: rest => digits true rest
    | _ => digits false rest
  match s with
  | 'e' :: rest => signed rest
  | 'E' :: rest => signed rest
  | _ => .ok (false, [], s)

/-- A number, after its minus sign if it has one. -/
def scanNumeral (ended : Fault) (s : List Char) : Except Fault (Numeral × List Char) := do
  let (whole, s) ← scanWhole ended s
  let (fraction, s) ← scanFraction ended s
  let (negative, exponent, s) ← scanExponent ended s
  return (⟨whole, fraction, negative, exponent⟩, s)

namespace Numeral

/-- The number that a run of digits writes. -/
def decimal (digits : List Char) : Nat :=
  digits.foldl (fun n c => n * 10 + (c.toNat - '0'.toNat)) 0

/-- The bound below which significands are kept exactly. -/
def significandBound : Nat := 18446744073709551616

/-- Takes digits in while the significand stays below the bound; answers how many it took. -/
def absorb : (significand taken : Nat) → List Char → Nat × Nat
  | significand, taken, [] => (significand, taken)
  | significand, taken, c :: rest =>
    let next := significand * 10 + (c.toNat - '0'.toNat)
    if next < significandBound then absorb next (taken + 1) rest else (significand, taken)

/-- The significand and the power of ten that approximate a number. Digits before the point that
no longer fit raise the power, later digits are dropped. -/
def approximation (n : Numeral) : Nat × Int :=
  let (significand, taken) := absorb 0 0 n.whole
  let dropped := n.whole.length - taken
  let (significand, places) := absorb significand 0 n.fraction
  let power := (decimal n.exponent : Int)
  (significand,
    (dropped : Int) - (places : Int) + if n.exponentNegative then -power else power)

/-- Whether a number is finite as a double. -/
def isFinite (n : Numeral) : Bool :=
  let (significand, power) := n.approximation
  if significand = 0 ∨ power < 0 then true
  else if 308 < power then false
  else !(significand.toUInt64.toFloat * Float.ofScientific 1 false power.toNat).isInf

end Numeral

end Bindery.Json
