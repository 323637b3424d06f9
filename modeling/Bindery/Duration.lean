/-! # Durations in words

A duration is shown in the largest unit that it reaches: whole microseconds, whole milliseconds,
seconds with two places, or minutes and seconds with one place. Seconds are taken as a double, and
places are rounded from that double's exact value, a half to the even neighbour.
-/

namespace Bindery

/-- A power of two. -/
def powerOfTwo (exponent : Nat) : Nat := Nat.pow 2 exponent

/-- A power of ten. -/
def powerOfTen (exponent : Nat) : Nat := Nat.pow 10 exponent

/-- The exact value of a finite double that is not negative, as a fraction. -/
def exactFraction (x : Float) : Nat × Nat :=
  let bits := x.toBits.toNat
  let exponent := bits / powerOfTwo 52 % powerOfTwo 11
  let mantissa := bits % powerOfTwo 52
  if exponent = 0 then (mantissa, powerOfTwo 1074)
  else
    let significand := mantissa + powerOfTwo 52
    if 1075 ≤ exponent then (significand * powerOfTwo (exponent - 1075), 1)
    else (significand, powerOfTwo (1075 - exponent))

/-- The integer nearest to a fraction, a half to the even neighbour. -/
def roundHalfEven (numerator denominator : Nat) : Nat :=
  let quotient := numerator / denominator
  let rest := 2 * (numerator % denominator)
  if rest < denominator then quotient
  else if denominator < rest then quotient + 1
  else if quotient % 2 = 0 then quotient else quotient + 1

/-- Decimal digits, filled with zeros on the left up to a width. -/
def paddedDigits (width n : Nat) : String :=
  let digits := toString n
  String.ofList (List.replicate (width - digits.length) '0') ++ digits

/-- A fraction with a fixed number of places, of which there is at least one. -/
def fixedPlaces (places numerator denominator : Nat) : String :=
  let scaled := roundHalfEven (numerator * powerOfTen places) denominator
  s!"{scaled / powerOfTen places}." ++ paddedDigits places (scaled % powerOfTen places)

/-- A length of time: whole seconds, and the nanoseconds beyond them. -/
structure Duration where
  seconds : UInt64
  nanoseconds : UInt32
  /-- The nanoseconds do not fill another second. -/
  nanoseconds_lt : nanoseconds < 1000000000
  deriving DecidableEq

namespace Duration

/-- The length of some seconds and some nanoseconds, of which there may be a second or more. -/
def ofParts (seconds : UInt64) (nanoseconds : UInt32) : Duration where
  seconds := seconds + (nanoseconds / 1000000000).toUInt64
  nanoseconds := nanoseconds % 1000000000
  nanoseconds_lt := UInt32.mod_lt nanoseconds (by decide)

/-- The length in nanoseconds. -/
def totalNanoseconds (d : Duration) : Nat := d.seconds.toNat * 1000000000 + d.nanoseconds.toNat

/-- The length in seconds, as a double. -/
def asSeconds (d : Duration) : Float :=
  d.seconds.toFloat + d.nanoseconds.toFloat / 1000000000.0

/-- The remainder of a fraction on division by sixty, over the same denominator. -/
def remainderBySixty (numerator denominator : Nat) : Nat := numerator % (60 * denominator)

/-- A duration in words. -/
def display (d : Duration) : String :=
  let total := d.asSeconds
  if total < 0.001 then s!"{d.totalNanoseconds / 1000}µs"
  else if total < 1.0 then s!"{d.totalNanoseconds / 1000000}ms"
  else
    let (numerator, denominator) := exactFraction total
    if total < 60.0 then fixedPlaces 2 numerator denominator ++ "s"
    else
      let minutes := exactFraction (total / 60.0).floor
      s!"{minutes.1 / minutes.2}m " ++
        fixedPlaces 1 (remainderBySixty numerator denominator) denominator ++ "s"

end Duration

end Bindery
