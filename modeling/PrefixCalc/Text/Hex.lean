/-!
# Hexadecimal digits

Digits as characters, in either case, and numerals of a fixed width.

## Main definitions

* `hexDigit`, `hexNumeral`: writing, with small or capital letters.
* `hexValue?`: reading, either case.
-/

namespace PrefixCalc.Text

/-- The case of the letters among the digits. -/
inductive HexCase where
  | lower
  | upper
  deriving DecidableEq, Repr

/-- The digit for a value below sixteen. -/
def hexDigit (style : HexCase) (n : Nat) : Char :=
  if n < 10 then Char.ofNat ('0'.toNat + n)
  else
    match style with
    | .lower => Char.ofNat ('a'.toNat + n - 10)
    | .upper => Char.ofNat ('A'.toNat + n - 10)

/-- The last `width` hexadecimal digits of a number, most significant first. -/
def hexNumeral (style : HexCase) : (width : Nat) → Nat → List Char
  | 0, _ => []
  | w + 1, n => hexNumeral style w (n / 16) ++ [hexDigit style (n % 16)]

/-- The value of a hexadecimal digit. -/
def hexValue? (c : Char) : Option Nat :=
  if '0' ≤ c ∧ c ≤ '9' then some (c.toNat - '0'.toNat)
  else if 'a' ≤ c ∧ c ≤ 'f' then some (c.toNat - 'a'.toNat + 10)
  else if 'A' ≤ c ∧ c ≤ 'F' then some (c.toNat - 'A'.toNat + 10)
  else none

/-- A written digit has the value it was written for. -/
theorem hexValue?_hexDigit (style : HexCase) {n : Nat} (h : n < 16) :
    hexValue? (hexDigit style n) = some n := by
  cases style <;>
    (iterate 16 (cases n with | zero => decide | succ n => ?_)) <;> omega

/-- A numeral has the width that was asked for. -/
@[simp] theorem length_hexNumeral (style : HexCase) (w n : Nat) :
    (hexNumeral style w n).length = w := by
  induction w generalizing n with
  | zero => rfl
  | succ w ih => simp [hexNumeral, ih]

end PrefixCalc.Text
