/-!
# Punycode

A label with characters beyond ASCII is written with ASCII characters: its ASCII characters, a
hyphen, and a numeral for each of the others that says where it goes and which one it is. The
others are taken in the order of their code points. Numerals have digits of 36 values and end in a
digit below a threshold, which adapts to the numerals before.

## Main definitions

* `Punycode.encode`: a label in ASCII.
* `Punycode.decode?`: the label that ASCII characters stand for.
-/

namespace PrefixCalc.Domain.Punycode

/-- How many values a digit has. -/
def base : Nat := 36

/-- The least threshold. -/
def leastThreshold : Nat := 1

/-- The greatest threshold. -/
def greatestThreshold : Nat := 26

/-- The bias that thresholds start from. -/
def firstBias : Nat := 72

/-- The first code point that is not ASCII. -/
def firstPoint : Nat := 0x80

/-- A code point is at most this. -/
def lastPoint : Nat := 0x10FFFF

/-- The threshold of a digit by its place, the first place being `base`. -/
def threshold (bias place : Nat) : Nat :=
  min greatestThreshold (max leastThreshold (place - bias))

theorem threshold_pos (bias place : Nat) : 0 < threshold bias place := by
  simp only [threshold, leastThreshold, greatestThreshold]
  omega

theorem threshold_lt_base (bias place : Nat) : threshold bias place < base := by
  simp only [threshold, base, greatestThreshold]
  omega

/-- A large number is divided down before the bias is taken from it; the divisions count. -/
def scaleDown (divisions delta : Nat) : Nat :=
  if (base - leastThreshold) * greatestThreshold / 2 < delta then
    scaleDown (divisions + base) (delta / (base - leastThreshold))
  else divisions + base * delta / (delta + 38)
termination_by delta
decreasing_by exact Nat.div_lt_self (by omega) (by decide)

/-- The bias behind a numeral, when so many characters are placed. -/
def adapt (delta : Nat) (isFirst : Bool) (placed : Nat) : Nat :=
  let delta := if isFirst then delta / 700 else delta / 2
  scaleDown 0 (delta + delta / placed)

/-! ### Writing -/

/-- The character for the value of a digit. -/
def digit (n : Nat) : Char :=
  if n < 26 then Char.ofNat ('a'.toNat + n) else Char.ofNat ('0'.toNat + n - 26)

/-- The digits of a numeral from a place on. -/
def numeral (bias place n : Nat) : List Char :=
  let t := threshold bias place
  if n < t then [digit n]
  else digit (t + (n - t) % (base - t)) :: numeral bias (place + base) ((n - t) / (base - t))
termination_by n
decreasing_by
  have := threshold_pos bias place
  exact Nat.lt_of_le_of_lt (Nat.div_le_self ..) (by omega)

/-- A label being written: the distance since the last numeral, the bias, how many characters are
placed, and what is written. -/
structure Writing where
  delta : Nat := 0
  bias : Nat := firstBias
  placed : Nat
  written : List Char

/-- One character of the label, when the characters below `point` are placed already. -/
def Writing.visit (basic point : Nat) (w : Writing) (n : Nat) : Writing :=
  if n < point then { w with delta := w.delta + 1 }
  else if n = point then
    { delta := 0
      bias := adapt w.delta (w.placed == basic) (w.placed + 1)
      placed := w.placed + 1
      written := w.written ++ numeral w.bias base w.delta }
  else w

/-- All places of one code point. The state holds the code point that the distance is counted
from, too: the one behind the code point placed before. -/
def Writing.place (label : List Nat) (basic : Nat) (s : Writing × Nat) (point : Nat) :
    Writing × Nat :=
  let (w, start) := s
  let w := { w with delta := w.delta + (point - start) * (w.placed + 1) }
  let w := label.foldl (Writing.visit basic point) w
  ({ w with delta := w.delta + 1 }, point + 1)

/-- A label in ASCII. -/
def encode (label : List Nat) : List Char :=
  let basic := label.filter (· < firstPoint)
  let points := ((label.filter (firstPoint ≤ ·)).mergeSort (· ≤ ·)).eraseDups
  let written := basic.map Char.ofNat ++ (if basic.isEmpty then [] else ['-'])
  let (w, _) := points.foldl (Writing.place label basic.length)
    ({ placed := basic.length, written }, firstPoint)
  w.written

/-! ### Reading -/

/-- The value of a digit. -/
def digit? (c : Char) : Option Nat :=
  let c := c.toLower
  if 'a' ≤ c ∧ c ≤ 'z' then some (c.toNat - 'a'.toNat)
  else if c.isDigit then some (c.toNat - '0'.toNat + 26)
  else none

/-- The number that a numeral at the start of the characters stands for, with what follows it;
`weight` is that of the next digit. -/
def readNumeral (bias : Nat) : (place weight value : Nat) → List Char → Option (Nat × List Char)
  | _, _, _, [] => none
  | place, weight, value, c :: cs => do
    let n ← digit? c
    let t := threshold bias place
    let value := value + n * weight
    if n < t then some (value, cs)
    else readNumeral bias (place + base) (weight * (base - t)) value cs

/-- A numeral has at least one digit. -/
theorem length_lt_of_readNumeral {bias place weight value n : Nat} {cs rest : List Char}
    (h : readNumeral bias place weight value cs = some (n, rest)) : rest.length < cs.length := by
  induction cs generalizing place weight value with
  | nil => simp [readNumeral] at h
  | cons c cs ih =>
    obtain ⟨d, -, h⟩ := Option.bind_eq_some_iff.1 h
    by_cases hd : d < threshold bias place
    · simp only [hd, if_true, Option.some.injEq, Prod.mk.injEq] at h
      simp [h.2]
    · simp only [hd, if_false] at h
      exact Nat.lt_succ_of_lt (ih h)

/-- A label being read: its characters so far, the code point and the place of the last one that
was put in, and the bias. -/
structure Reading where
  label : List Nat
  point : Nat := firstPoint
  /-- The place behind the last one. -/
  next : Nat := 0
  bias : Nat := firstBias
  isFirst : Bool := true

/-- The label with the character of one more numeral. -/
def Reading.put (r : Reading) (delta : Nat) : Option Reading :=
  let size := r.label.length + 1
  let position := r.next + delta
  let point := r.point + position / size
  let place := position % size
  if lastPoint < point then none
  else
    some
      { label := r.label.take place ++ point :: r.label.drop place
        point
        next := place + 1
        bias := adapt delta r.isFirst size
        isFirst := false }

/-- The characters of the numerals are put in one after the other. -/
def Reading.run (r : Reading) (cs : List Char) : Option (List Nat) :=
  if cs.isEmpty then some r.label
  else
    match _h : readNumeral r.bias base 1 0 cs with
    | some (delta, rest) => (r.put delta).bind fun next => next.run rest
    | none => none
termination_by cs.length
decreasing_by exact length_lt_of_readNumeral _h

/-- The label that ASCII characters stand for. What stands before the last hyphen is its ASCII
part. -/
def decode? (cs : List Char) : Option (List Nat) :=
  let numerals := (cs.reverse.takeWhile (· != '-')).reverse
  let basic := ((cs.reverse.dropWhile (· != '-')).drop 1).reverse
  ({ label := basic.map Char.toNat } : Reading).run numerals

end PrefixCalc.Domain.Punycode
