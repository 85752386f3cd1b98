/-!
# The fewest digits that identify a double

A finite positive double is `significand * 2 ^ exponent`.  The reals that
round to it form an interval: from halfway to the neighbour below to
halfway to the neighbour above, the ends included exactly when the
significand is even.  The shortest decimal in that interval identifies
the double; this file selects it by exact arithmetic on naturals.

* `Dyadic.ofBits` — the significand and exponent of a finite double;
* `Dyadic.contains` — the interval test, by cross-multiplication;
* `Dyadic.onGrid?` — of the multiples of `10 ^ k`, the one in the interval
  that is closest to the value; of two equally close ones, the greater;
* `Dyadic.shortest` — the decimal on the coarsest grid that has one,
  without trailing zeros.
-/

namespace NodeSchema

/-- The decimal number `digits * 10 ^ exponent`. -/
structure Decimal where
  digits : Nat
  exponent : Int
  deriving DecidableEq, Repr

/-- The number `significand * 2 ^ exponent`.  `narrow` says that the double
below is only half as far away as the double above. -/
structure Dyadic where
  significand : Nat
  exponent : Int
  narrow : Bool
  deriving DecidableEq, Repr

namespace Decimal

/-- `n` times the numerator of `base ^ e`, which is one for a negative `e`. -/
def above (n base : Nat) (e : Int) : Nat := n * Nat.pow base e.toNat

/-- `n` times the denominator of `base ^ e`, which is one unless `e` is
negative. -/
def beneath (n base : Nat) (e : Int) : Nat := n * Nat.pow base (-e).toNat

/-- Compares `a * 10 ^ i` with `n * 2 ^ j`, exactly. -/
def compareScaled (a : Nat) (i : Int) (n : Nat) (j : Int) : Ordering :=
  compare (beneath (above a 10 i) 2 j) (beneath (above n 2 j) 10 i)

/-- Moves trailing zeros from the digits to the exponent, at most `limit`
of them. -/
def stripZeros : Nat → Decimal → Decimal
  | 0, d => d
  | limit + 1, d =>
    if d.digits ≠ 0 ∧ d.digits % 10 = 0 then
      stripZeros limit ⟨d.digits / 10, d.exponent + 1⟩
    else d

end Decimal

namespace Dyadic

open Decimal

/-- The magnitude of a finite double, from its bits. -/
def ofBits (bits : UInt64) : Dyadic :=
  let biased := ((bits >>> 52) &&& 0x7FF).toNat
  let fraction := (bits &&& 0xFFFFFFFFFFFFF).toNat
  if biased = 0 then ⟨fraction, -1074, false⟩
  else ⟨0x10000000000000 + fraction, (biased : Int) - 1075, fraction == 0 && decide (1 < biased)⟩

/-- `d` is one of the numbers that round to `x`: it lies between the two
halfway points, or on one of them when the significand is even. -/
def contains (x : Dyadic) (d : Decimal) : Bool :=
  let low := if x.narrow then 4 * x.significand - 1 else 4 * x.significand - 2
  let high := 4 * x.significand + 2
  let ends := x.significand % 2 == 0
  let fromLow := compareScaled d.digits d.exponent low (x.exponent - 2)
  let fromHigh := compareScaled d.digits d.exponent high (x.exponent - 2)
  (fromLow == .gt || (ends && fromLow == .eq)) && (fromHigh == .lt || (ends && fromHigh == .eq))

/-- The greatest `n` with `n * 10 ^ k` at most `x`. -/
def floorOn (x : Dyadic) (k : Int) : Nat :=
  beneath (above x.significand 2 x.exponent) 10 k / above (beneath 1 2 x.exponent) 10 k

/-- Whether `n * 10 ^ k` is at most as far below `x` as `(n + 1) * 10 ^ k`
is above it, and not equally far. -/
def closerBelow (x : Dyadic) (n : Nat) (k : Int) : Bool :=
  compareScaled (2 * n + 1) k x.significand (x.exponent + 1) == .gt

/-- The multiple of `10 ^ k` that identifies `x`, if there is one: of the
two neighbours of `x` on that grid the closer, and at a tie the greater. -/
def onGrid? (x : Dyadic) (k : Int) : Option Decimal :=
  let below := x.floorOn k
  match x.contains ⟨below, k⟩, x.contains ⟨below + 1, k⟩ with
  | true, true => some (if x.closerBelow below k then ⟨below, k⟩ else ⟨below + 1, k⟩)
  | true, false => some ⟨below, k⟩
  | false, true => some ⟨below + 1, k⟩
  | false, false => none

/-- The first hit among `count` grids, each ten times finer than the one
before, from `10 ^ k` on. -/
def firstHit (x : Dyadic) : Nat → Int → Option Decimal
  | 0, _ => none
  | count + 1, k => (x.onGrid? k).or (x.firstHit count (k - 1))

/-- The decimal value of `x` in full. -/
def exact (x : Dyadic) : Decimal :=
  ⟨beneath (above x.significand 2 x.exponent) 5 x.exponent, -(-x.exponent).toNat⟩

/-- An exponent `k` with `x < 10 ^ k`, at most a few steps too large. -/
def scale (x : Dyadic) : Int :=
  ((x.significand.log2 : Int) + 1 + x.exponent) * 30103 / 100000 + 2

/-- The shortest decimal that identifies `x`.  Twenty-two grids reach from
above the leading digit past the seventeenth, which always identifies a
double; the exact value stands for the case that none does. -/
def shortest (x : Dyadic) : Decimal :=
  stripZeros 400 ((x.firstHit 22 x.scale).getD x.exact)

end Dyadic

end NodeSchema
