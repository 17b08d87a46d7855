import PrefixCalc.Decimal.Real

/-!
# The fewest digits that read back

A finite number stands for an interval of reals, those that round to it: from half way to the
number below up to half way to the number above, the ends included when its coefficient is even.
Its text uses the fewest digits with which a decimal fraction lies in that interval, and of two
such fractions the nearer one.

## Main definitions

* `Interval`: the interval of a finite number, over a common denominator.
* `shortest`: the digits, and the place of the decimal point before them.
-/

namespace PrefixCalc.Real64

/-- A number with the reals that round to it, as numerators over one denominator. -/
structure Interval where
  below : Nat
  value : Nat
  above : Nat
  den : Nat
  closed : Bool
  deriving Repr

/-- The interval of `m * 2 ^ q`; below a power of two the gap is half as wide. -/
def interval (m : Nat) (q : Int) : Interval :=
  let narrow := m * 2 = coefficientBound ∧ leastExponent < q
  let num := if 0 ≤ q then Nat.pow 2 q.toNat else 1
  let den := 4 * (if 0 ≤ q then 1 else Nat.pow 2 (-q).toNat)
  { below := (4 * m - (if narrow then 1 else 2)) * num
    value := 4 * m * num
    above := (4 * m + 2) * num
    den := den
    closed := m % 2 = 0 }

/-- The decimal fraction `digits * 10 ^ k` lies in the interval. -/
def Interval.holds (i : Interval) (digits : Nat) (k : Int) : Bool :=
  let x := digits * i.den * (if 0 ≤ k then Nat.pow 10 k.toNat else 1)
  let s := if 0 ≤ k then 1 else Nat.pow 10 (-k).toNat
  if i.closed then i.below * s ≤ x && x ≤ i.above * s
  else i.below * s < x && x < i.above * s

/-- The two neighbours of the value among the multiples of `10 ^ k`: those in the interval, the
nearer one if both are. -/
def Interval.onGrid (i : Interval) (k : Int) : Option Nat :=
  let num := i.value * (if 0 ≤ k then 1 else Nat.pow 10 (-k).toNat)
  let den := i.den * (if 0 ≤ k then Nat.pow 10 k.toNat else 1)
  let lower := num / den
  let upper := lower + 1
  match i.holds lower k && lower != 0, i.holds upper k with
  | true, true =>
    let twice := 2 * (num % den)
    if twice < den ∨ (twice = den ∧ lower % 2 = 0) then some lower else some upper
  | true, false => some lower
  | false, true => some upper
  | false, false => none

/-- The least `k` with `num / den < 10 ^ k`, searched upwards from a bound below it. -/
def decimalPlaces (num den : Nat) : (steps : Nat) → Int → Int
  | 0, k => k
  | steps + 1, k =>
    let small :=
      if 0 ≤ k then num < den * Nat.pow 10 k.toNat else num * Nat.pow 10 (-k).toNat < den
    if small then k else decimalPlaces num den steps (k + 1)

/-- The digits of the first of the finer and finer grids that meets the interval, with the power
of ten of the last digit. -/
def Interval.search (i : Interval) (places : Int) : (finer : Nat) → (digits : Nat) → Nat × Int
  | 0, n => (i.value / i.den, places - n)
  | finer + 1, n =>
    match i.onGrid (places - n) with
    | some d => (d, places - n)
    | none => i.search places finer (n + 1)

/-- The digits of a natural without the zeros at its end. -/
def significant (n : Nat) : List Char :=
  (((Nat.toDigits 10 n).reverse.dropWhile (· == '0')).reverse)

/-- The fewest digits that read back as the positive number `m * 2 ^ q`, and the number of places
before the decimal point: `0.d₁d₂… * 10 ^ places`. -/
def shortest (m : Nat) (q : Int) : List Char × Int :=
  let i := interval m q
  let bits : Int := (i.value.log2 : Int) - i.den.log2
  let places := decimalPlaces i.value i.den 8 (bits * 30103 / 100000 - 2)
  let (d, k) := i.search places 17 1
  let ds := Nat.toDigits 10 d
  (significant d, ds.length + k)

end PrefixCalc.Real64
