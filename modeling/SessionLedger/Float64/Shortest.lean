/-!
# The shortest decimal text of a double

A double is written with the fewest significant digits that read back as the same double, and of
those the digits nearest to its value. `decode` takes the bits apart into `m · 2 ^ q`; the reals
that round to the double form an interval around it, ends included when `m` is even; and the first
decimal grid with a point in that interval gives the digits. All of this is exact arithmetic on
natural numbers.

## Main definitions

* `Float64.Parts`, `Float64.decode` — a finite double as sign, mantissa and exponent
* `Float64.shortest` — its digits and decimal exponent
* `Float64.Layout`, `Float64.render` — the text, once a layout is chosen
-/

namespace SessionLedger

namespace Float64

/-- A finite double, `± mantissa · 2 ^ exponent`. -/
structure Parts where
  negative : Bool
  mantissa : Nat
  exponent : Int
  /-- The double below is half as far away as the one above: the mantissa is the least of its
  binary order. -/
  narrowBelow : Bool
deriving DecidableEq, Repr

/-- The bit above the 52 that are stored of a mantissa. -/
def hiddenBit : Nat := 4503599627370496

/-- Takes the bits of a finite double apart; infinities and what is not a number give `none`. -/
def decode (bits : UInt64) : Option Parts :=
  let n := bits.toNat
  let negative := n / (hiddenBit * 2048) == 1
  let biased : Nat := n / hiddenBit % 2048
  let fraction : Nat := n % hiddenBit
  if biased = 2047 then none
  else if biased = 0 then some ⟨negative, fraction, -1074, false⟩
  else some ⟨negative, hiddenBit + fraction, (biased : Int) - 1075, fraction == 0 && biased != 1⟩

/-- Decimal digits `d₁ d₂ … dₙ`, standing for `d₁.d₂…dₙ · 10 ^ exponent`. -/
structure Digits where
  digits : List Char
  exponent : Int
deriving DecidableEq, Repr

/-- The largest `k` with `10 ^ k ≤ num / den`, for positive arguments. -/
def decimalOrder (num den : Nat) : Int :=
  if den ≤ num then ((Nat.toDigits 10 (num / den)).length : Int) - 1
  else
    match (List.range 400).find? fun j => den ≤ num * Nat.pow 10 (j + 1) with
    | some j => -((j : Int) + 1)
    | none => -400

/-- The best point of the grid of multiples of `10 ^ e` between `low / den` and `high / den`, if
there is one: the neighbour of `mid / den` that lies in the interval, the nearer one of two, and the
even one of two equally near. -/
def gridPoint (low mid high den : Nat) (closed : Bool) (e : Int) : Option Nat :=
  let scale := Nat.pow 10 e.natAbs
  let (low, mid, high, unit) :=
    if 0 ≤ e then (low, mid, high, den * scale) else (low * scale, mid * scale, high * scale, den)
  let below := mid / unit
  let above := below + 1
  let inside (d : Nat) : Bool :=
    if closed then low ≤ d * unit && d * unit ≤ high else low < d * unit && d * unit < high
  let gapBelow := mid - below * unit
  let gapAbove := above * unit - mid
  match inside below, inside above with
  | true, true =>
    if gapBelow < gapAbove then some below
    else if gapAbove < gapBelow then some above
    else some (if below % 2 = 0 then below else above)
  | true, false => some below
  | false, true => some above
  | false, false => none

/-- The fewest digits that read back as the double `m · 2 ^ q`, for positive `m`. -/
def shortest (p : Parts) : Digits :=
  let q := p.exponent - 2
  let scale := Nat.pow 2 q.natAbs
  let lowGap := if p.narrowBelow then 1 else 2
  let (factor, den) := if 0 ≤ q then (scale, 1) else (1, scale)
  let mid := 4 * p.mantissa * factor
  let low := (4 * p.mantissa - lowGap) * factor
  let high := (4 * p.mantissa + 2) * factor
  let closed := p.mantissa % 2 == 0
  let order := decimalOrder mid den
  let found := (List.range 18).findSome? fun (n : Nat) =>
    (gridPoint low mid high den closed (order - n)).map fun d => (d, order - (n : Int))
  match found with
  | some (d, e) =>
    let ds := Nat.toDigits 10 d
    let kept := (ds.reverse.dropWhile (· == '0')).reverse
    ⟨if kept.isEmpty then ['0'] else kept, e + (ds.length : Int) - 1⟩
  | none => ⟨['0'], 0⟩

/-- The choices a written double leaves open: where positional notation begins and ends, by decimal
exponent. -/
structure Layout where
  leastPositional : Int
  greatestPositional : Int

/-- The text of digits: positional between the bounds of the layout, with at least one place after
the point; otherwise one digit before the point and a signed exponent. -/
def Layout.text (l : Layout) (d : Digits) : List Char :=
  if l.leastPositional ≤ d.exponent ∧ d.exponent ≤ l.greatestPositional then
    if d.exponent < 0 then
      ['0', '.'] ++ List.replicate (d.exponent.natAbs - 1) '0' ++ d.digits
    else
      let places := d.exponent.natAbs + 1
      let padded := d.digits ++ List.replicate (places - d.digits.length) '0'
      let rest := padded.drop places
      padded.take places ++ ['.'] ++ (if rest.isEmpty then ['0'] else rest)
  else
    let head := d.digits.take 1
    let rest := d.digits.drop 1
    head ++ (if rest.isEmpty then [] else '.' :: rest) ++
      ['e', if d.exponent < 0 then '-' else '+'] ++ Nat.toDigits 10 d.exponent.natAbs

/-- The text of a double in a layout. -/
def render (l : Layout) (x : Float) : String :=
  match decode x.toBits with
  | none => if x.isNaN then "NaN" else if x < 0 then "-inf" else "inf"
  | some p =>
    let body := if p.mantissa = 0 then ['0', '.', '0'] else l.text (shortest p)
    String.ofList (if p.negative then '-' :: body else body)

end Float64

end SessionLedger
