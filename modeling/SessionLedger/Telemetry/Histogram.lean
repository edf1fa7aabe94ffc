/-!
# Counters, gauges and histograms

Numbers of 64 bits that are counted up, set, or sorted into buckets. All arithmetic is modulo
`2 ^ 64`.

## Main definitions

* `Counter`, `Gauge` — numbers that go up, or up and down
* `Histogram` — observations by size, with their number and their sum
-/

namespace SessionLedger

/-- A number that is counted up. -/
structure Counter where
  value : UInt64 := 0
deriving DecidableEq, Repr

namespace Counter

/-- Counts `n` further. -/
def incBy (c : Counter) (n : UInt64) : Counter := ⟨c.value + n⟩

/-- Counts one further. -/
def inc (c : Counter) : Counter := c.incBy 1

/-- Back to zero, with the value until then. -/
def reset (c : Counter) : UInt64 × Counter := (c.value, ⟨0⟩)

end Counter

/-- A number that goes up and down. -/
structure Gauge where
  value : UInt64 := 0
deriving DecidableEq, Repr

namespace Gauge

/-- Takes a value. -/
def set (_ : Gauge) (n : UInt64) : Gauge := ⟨n⟩

/-- One up. -/
def inc (g : Gauge) : Gauge := ⟨g.value + 1⟩

/-- One down. -/
def dec (g : Gauge) : Gauge := ⟨g.value - 1⟩

end Gauge

/-- Observations sorted into buckets. Each bucket has a bound and takes what is above the bound
before it and not above its own; the last one also takes what is above all bounds. -/
structure Histogram where
  buckets : List (UInt64 × UInt64)
  sum : UInt64 := 0
  count : UInt64 := 0
deriving DecidableEq, Repr

namespace Histogram

/-- The bounds of latencies, in milliseconds. -/
def latencyBounds : List UInt64 := [1, 5, 10, 25, 50, 100, 250, 500, 1000, 5000, 10000]

/-- No observations yet. -/
def new : Histogram := { buckets := latencyBounds.map fun bound => (bound, 0) }

/-- Counts an observation in its bucket. -/
def countIn (n : UInt64) : List (UInt64 × UInt64) → List (UInt64 × UInt64)
  | [] => []
  | [(bound, count)] => [(bound, count + 1)]
  | (bound, count) :: rest =>
    if n ≤ bound then (bound, count + 1) :: rest else (bound, count) :: countIn n rest

/-- Takes an observation. -/
def observe (h : Histogram) (n : UInt64) : Histogram :=
  ⟨countIn n h.buckets, h.sum + n, h.count + 1⟩

/-- The mean of the observations, 0 without any. Sum and number are rounded to doubles before they
are divided. -/
def mean (h : Histogram) : Float := if h.count = 0 then 0.0 else h.sum.toFloat / h.count.toFloat

theorem bounds_countIn (n : UInt64) (buckets : List (UInt64 × UInt64)) :
    (countIn n buckets).map (·.1) = buckets.map (·.1) := by
  fun_induction countIn n buckets <;> simp_all

end Histogram

end SessionLedger
