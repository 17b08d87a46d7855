/-!
# Binary floating-point numbers

Numbers of the 64-bit binary format, held exactly: a finite one is `± m * 2 ^ q` with a whole
coefficient `m` below `2 ^ 53`. A decimal fraction becomes the nearest such number, a tie going
to the even coefficient, and is infinite when it is too large.

## Main definitions

* `Real64`: the numbers.
* `Real64.ofRatio`: the nearest number to a quotient of naturals.
* `Real64.ofDecimal`: the nearest number to `coefficient * 10 ^ exponent`.
* `Real64.toInt?`: the integer that a number is, if it is one.
-/

namespace PrefixCalc

/-- A number of the 64-bit binary floating-point format. -/
inductive Real64 where
  /-- The number `± m * 2 ^ q`. -/
  | finite (negative : Bool) (m : Nat) (q : Int)
  | infinite (negative : Bool)
  | nan
  deriving DecidableEq, Repr

namespace Real64

/-- The coefficients of finite numbers lie below this bound. -/
def coefficientBound : Nat := Nat.pow 2 53

/-- The least exponent of a finite number. -/
def leastExponent : Int := -1074

/-- The greatest exponent of a finite number. -/
def greatestExponent : Int := 971

/-- Zero. -/
def zero (negative : Bool) : Real64 :=
  .finite negative 0 leastExponent

/-! ### Rounding -/

/-- A quotient rounded to the nearest natural, a tie to the even one. -/
def roundHalfEven (num den : Nat) : Nat :=
  let whole := num / den
  let twice := 2 * (num % den)
  if twice < den then whole
  else if den < twice then whole + 1
  else if whole % 2 = 0 then whole else whole + 1

/-- The quotient `(num / den) / 2 ^ q` as a pair of naturals. -/
def scaled (num den : Nat) (q : Int) : Nat × Nat :=
  if 0 ≤ q then (num, den * Nat.pow 2 q.toNat) else (num * Nat.pow 2 (-q).toNat, den)

/-- The exponent at which the quotient of two positive naturals has a coefficient of 53 bits. -/
def normalExponent (num den : Nat) : Int :=
  let q : Int := (num.log2 : Int) - den.log2 - 53
  let (n, d) := scaled num den q
  if n / d < coefficientBound then q else q + 1

/-- The nearest number to the quotient of two naturals. -/
def ofRatio (negative : Bool) (num den : Nat) : Real64 :=
  if num = 0 ∨ den = 0 then zero negative
  else
    let q := max (normalExponent num den) leastExponent
    let (n, d) := scaled num den q
    let m := roundHalfEven n d
    let (m, q) := if m < coefficientBound then (m, q) else (m / 2, q + 1)
    if greatestExponent < q then .infinite negative else .finite negative m q

/-- Decimal fractions of more than this many places before the point are infinite, and those that
start more than this many places behind it are zero. -/
def decimalRange : Int := 400

/-- The nearest number to `coefficient * 10 ^ exponent`. -/
def ofDecimal (negative : Bool) (coefficient : Nat) (exponent : Int) : Real64 :=
  if coefficient = 0 then zero negative
  else
    let places := (Nat.toDigits 10 coefficient).length + exponent
    if decimalRange < places then .infinite negative
    else if places < -decimalRange then zero negative
    else if 0 ≤ exponent then ofRatio negative (coefficient * Nat.pow 10 exponent.toNat) 1
    else ofRatio negative coefficient (Nat.pow 10 (-exponent).toNat)

/-- The nearest number to an integer. -/
def ofInt (n : Int) : Real64 :=
  ofRatio (n < 0) n.natAbs 1

/-! ### Whole numbers -/

/-- The integer that a finite number without a fraction is. -/
def toInt? : Real64 → Option Int
  | .finite negative m q =>
    let (n, d) := scaled m 1 (-q)
    if n % d = 0 then some (if negative then -((n / d : Nat) : Int) else (n / d : Nat)) else none
  | _ => none

end Real64

end PrefixCalc
