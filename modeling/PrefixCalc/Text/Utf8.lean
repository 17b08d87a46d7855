/-!
# UTF-8

A text as octets, and octets as a text. Reading never fails: a longest run of octets that starts
a character and cannot be continued, and an octet that starts none, each become one replacement
character `U+FFFD`. The reader takes one octet at a time.

## Main definitions

* `octets`: a text as octets.
* `ofOctets`: octets as a text, with replacement characters.
-/

namespace PrefixCalc.Text.Utf8

/-- What stands for octets that are no text. -/
def replacement : Char := '\ufffd'

/-- A text as octets. -/
def octets (cs : List Char) : List UInt8 :=
  cs.flatMap String.utf8EncodeChar

/-! ### Reading -/

/-- A character of which some octets are still owed: how many, the bits so far, and the least and
the greatest value that the next octet may have. -/
structure Pending where
  owed : Nat
  bits : Nat
  low : Nat
  high : Nat
  deriving DecidableEq, Repr

/-- The first octet of a character: what it completes, and what it leaves owed. -/
def first (b : Nat) : List Char × Option Pending :=
  if b < 0x80 then ([Char.ofNat b], none)
  else if b < 0xC2 then ([replacement], none)
  else if b < 0xE0 then ([], some ⟨1, b - 0xC0, 0x80, 0xBF⟩)
  else if b < 0xF0 then
    ([], some ⟨2, b - 0xE0, if b = 0xE0 then 0xA0 else 0x80, if b = 0xED then 0x9F else 0xBF⟩)
  else if b < 0xF5 then
    ([], some ⟨3, b - 0xF0, if b = 0xF0 then 0x90 else 0x80, if b = 0xF4 then 0x8F else 0xBF⟩)
  else ([replacement], none)

/-- One octet: what it completes, and what is owed after it. -/
def step : Option Pending → Nat → List Char × Option Pending
  | none, b => first b
  | some p, b =>
    if p.low ≤ b ∧ b ≤ p.high then
      let bits := p.bits * 64 + (b - 0x80)
      if p.owed ≤ 1 then ([Char.ofNat bits], none) else ([], some ⟨p.owed - 1, bits, 0x80, 0xBF⟩)
    else
      let (out, next) := first b
      (replacement :: out, next)

/-- Octets as characters, from any state of the reader. -/
def read : Option Pending → List UInt8 → List Char
  | none, [] => []
  | some _, [] => [replacement]
  | p, b :: bs =>
    let (out, next) := step p b.toNat
    out ++ read next bs

/-- Octets as a text. -/
def ofOctets (bs : List UInt8) : List Char :=
  read none bs

@[simp] theorem read_none_nil : read none [] = [] := rfl

theorem read_cons (p : Option Pending) (b : UInt8) (bs : List UInt8) :
    read p (b :: bs) = (step p b.toNat).1 ++ read (step p b.toNat).2 bs := by
  cases p <;> rfl

end PrefixCalc.Text.Utf8
