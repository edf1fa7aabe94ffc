/-!
# Numbers as they are written in JSON

The value of a written number. Digits are gathered into a significand of 64 bits; once the next
digit would not fit, the digits that follow count as zeros or, after the point, not at all. A number
without point and exponent that kept all its digits is an integer. Any other number is a double, the
significand times or divided by a power of ten, with the rounding of the double operations; the
number minus zero is such a double.

## Main definitions

* `Json.Written` — the parts of a written number
* `Json.Written.value?` — its value, `none` beyond the range of doubles
-/

namespace SessionLedger

namespace Json

/-- The parts of a number: sign, digits before the point, digits after it if there is a point, and
sign and digits of the exponent if there is one. -/
structure Written where
  negative : Bool
  whole : List Nat
  places : Option (List Nat)
  exponent : Option (Bool × List Nat)

/-- An integer or a double. -/
inductive NumberValue where
  | int (value : Int)
  | float (value : Float)

namespace Written

/-- The greatest significand. -/
def significandMax : Nat := 18446744073709551615

/-- The greatest exponent that is told from larger ones. -/
def exponentMax : Nat := 2147483647

/-- Gathers digits into a number as long as it stays within a bound, and counts those taken. -/
def gather (bound : Nat) (n taken : Nat) : List Nat → Nat × Nat
  | [] => (n, taken)
  | d :: ds => if n * 10 + d ≤ bound then gather bound (n * 10 + d) (taken + 1) ds else (n, taken)

/-- A power of ten as a double. -/
def powerOfTen (n : Nat) : Float := Float.ofScientific 1 false n

/-- A double times a power of ten, unless the result is beyond the range of doubles. Exponents
below the smallest power of ten are taken in steps of 308. -/
def scale : (steps : Nat) → Float → Int → Option Float
  | 0, x, _ => some x
  | steps + 1, x, e =>
    if e.natAbs ≤ 308 then
      if 0 ≤ e then
        let y := x * powerOfTen e.natAbs
        if y.isInf then none else some y
      else some (x / powerOfTen e.natAbs)
    else if x == 0 then some x
    else if 0 ≤ e then none
    else scale steps (x / powerOfTen 308) (e + 308)

/-- The double of a significand and a decimal exponent. -/
def double? (negative : Bool) (significand : Nat) (e : Int) : Option NumberValue :=
  (scale 4 significand.toUInt64.toFloat e).map fun x => .float (if negative then -x else x)

/-- The value with an exponent in place. An exponent beyond `exponentMax` leads out of the range of
doubles, or to zero. -/
def withExponent (negative : Bool) (significand : Nat) (e : Int) :
    Option (Bool × List Nat) → Option NumberValue
  | none => double? negative significand e
  | some (down, digits) =>
    let (power, taken) := gather exponentMax 0 0 digits
    if taken < digits.length then
      if significand ≠ 0 ∧ down = false then none
      else some (.float (if negative then -0.0 else 0.0))
    else double? negative significand (if down then e - power else e + power)

/-- The value of a written number. -/
def value? (w : Written) : Option NumberValue :=
  let (significand, taken) := gather significandMax 0 0 w.whole
  let dropped : Nat := w.whole.length - taken
  match w.places, w.exponent with
  | none, none =>
    if dropped ≠ 0 then double? w.negative significand dropped
    else if w.negative = false then some (.int significand)
    else if significand = 0 ∨ 9223372036854775808 < significand then
      some (.float (-significand.toUInt64.toFloat))
    else some (.int (-significand))
  | none, exponent => withExponent w.negative significand dropped exponent
  | some places, exponent =>
    let (significand, taken) := gather significandMax significand 0 places
    withExponent w.negative significand ((dropped : Int) - taken) exponent

end Written

end Json

end SessionLedger
