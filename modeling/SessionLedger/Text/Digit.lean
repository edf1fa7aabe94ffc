/-!
# Digits and decimal numbers

The values of single digits, and of whole texts as decimal numbers: integers of 64 bits and doubles.
A number may have a sign of either kind, leading zeros and an exponent; a double may lack the digits
on one side of its point, and the words for infinity and for what is not a number are doubles too.

## Main definitions

* `Text.digit?`, `Text.hexDigit?` — the value of a digit
* `Text.int?`, `Text.float?` — the number that a text stands for
-/

namespace SessionLedger

namespace Text

/-! ### Digits -/

/-- The value of a decimal digit. -/
def digit? (c : Char) : Option Nat :=
  if '0' ≤ c ∧ c ≤ '9' then some (c.toNat - '0'.toNat) else none

/-- The value of a hexadecimal digit, in upper or lower case. -/
def hexDigit? (c : Char) : Option Nat :=
  if '0' ≤ c ∧ c ≤ '9' then some (c.toNat - '0'.toNat)
  else if 'a' ≤ c ∧ c ≤ 'f' then some (c.toNat - 'a'.toNat + 10)
  else if 'A' ≤ c ∧ c ≤ 'F' then some (c.toNat - 'A'.toNat + 10)
  else none

/-- The number of some digits in a base, none if one of them is no digit of the base. -/
def natInBase? (base : Nat) (ds : List Char) : Option Nat :=
  ds.foldlM (fun n c => (hexDigit? c).bind fun d =>
    if d < base then some (n * base + d) else none) 0

/-- The number of some decimal digits. -/
def ofDigits (ds : List Char) : Nat := ds.foldl (fun n d => n * 10 + (d.toNat - '0'.toNat)) 0

/-- A number in decimal digits, filled up with zeros to a width. -/
def paddedDigits (width n : Nat) : List Char :=
  let ds := Nat.toDigits 10 n
  List.replicate (width - ds.length) '0' ++ ds

/-- The digits at the head of a text, and the rest. -/
def spanDigits (cs : List Char) : List Char × List Char := cs.span Char.isDigit

/-! ### Integers -/

/-- The sign at the head of a text: whether it is negative, and the rest. -/
def sign : List Char → Bool × List Char
  | '-' :: rest => (true, rest)
  | '+' :: rest => (false, rest)
  | rest => (false, rest)

/-- An integer, if 64 bits hold it. -/
def int64? (n : Int) : Option Int :=
  if -9223372036854775808 ≤ n ∧ n ≤ 9223372036854775807 then some n else none

/-- The integer of 64 bits that a text stands for. -/
def int? (cs : List Char) : Option Int :=
  let (negative, ds) := sign cs
  if ds.isEmpty || !ds.all Char.isDigit then none
  else int64? (if negative then -(ofDigits ds : Int) else ofDigits ds)

/-! ### Doubles -/

/-- The exponent at the end of a number; none is zero. -/
def exponent? : List Char → Option Int
  | [] => some 0
  | c :: rest =>
    if c = 'e' ∨ c = 'E' then
      let (negative, ds) := sign rest
      if ds.isEmpty || !ds.all Char.isDigit then none
      else some (if negative then -(ofDigits ds : Int) else ofDigits ds)
    else none

/-- The double nearest to `m · 10 ^ e`. Exponents beyond all doubles are cut off. -/
def scaled (m : Nat) (e : Int) : Float :=
  if m = 0 then 0.0
  else if e < -100000 then 0.0
  else if 100000 < e then 1.0 / 0.0
  else Float.ofScientific m (decide (e < 0)) e.natAbs

/-- The double that a text stands for. -/
def float? (cs : List Char) : Option Float :=
  let (negative, body) := sign cs
  let withSign (x : Float) : Float := if negative then -x else x
  let word := String.ofList (body.map Char.toLower)
  if word = "inf" ∨ word = "infinity" then some (withSign (1.0 / 0.0))
  else if word = "nan" then some (withSign (0.0 / 0.0))
  else
    let (whole, rest) := spanDigits body
    let (places, rest) := match rest with
      | '.' :: rest => spanDigits rest
      | rest => ([], rest)
    if whole.isEmpty && places.isEmpty then none
    else (exponent? rest).map fun e =>
      withSign (scaled (ofDigits (whole ++ places)) (e - places.length))

end Text

end SessionLedger
