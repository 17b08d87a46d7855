/-!
# Integers in decimal notation

Integers are exact and of any size, but one with more than 4300 digits cannot be written.

## Main definitions

* `maxDigits`: how many digits, the sign not counted, an integer may be written with.
* `text`: the decimal text of any integer.
* `write`: the same text, refused when it is too long.
* `ofDigits`: the number that a list of digits stands for.
-/

namespace PrefixCalc

/-- Why a value has no written form. -/
inductive Unwritable where
  /-- An integer has more than `Decimal.maxDigits` digits. -/
  | tooManyDigits
  /-- A number is infinite or not a number, and the format has no word for it. -/
  | notFinite
  /-- A value is nested too deep for its text. -/
  | tooDeep
  /-- In a text half of a character stands alone, which has no octets. -/
  | halfCharacter
  deriving DecidableEq, Repr

/-- The wording of the refusal; of half of a character only the reason, without its place. -/
def Unwritable.message : Unwritable → String
  | .tooManyDigits =>
    "Exceeds the limit (4300 digits) for integer string conversion; " ++
      "use sys.set_int_max_str_digits() to increase the limit"
  | .notFinite => "Out of range float values are not JSON compliant"
  | .tooDeep => "The value is nested too deep"
  | .halfCharacter => "surrogates not allowed"

namespace Decimal

/-- The digits that an integer may be written with. -/
def maxDigits : Nat := 4300

/-- The least number with too many digits to be written. -/
def writeBound : Nat := Nat.pow 10 maxDigits

/-- The decimal text of an integer: a minus sign for a negative one, and no leading zeros. -/
def text (n : Int) : String :=
  match n with
  | .ofNat m => m.repr
  | .negSucc m => "-" ++ (m + 1).repr

/-- An integer can be written when it has at most `maxDigits` digits. -/
def writable (n : Int) : Bool :=
  n.natAbs < writeBound

/-- The decimal text of an integer that can be written. -/
def write (n : Int) : Except Unwritable String :=
  if writable n then .ok (text n) else .error .tooManyDigits

theorem write_eq_ok_iff {n : Int} {s : String} :
    write n = .ok s ↔ n.natAbs < writeBound ∧ text n = s := by
  by_cases h : n.natAbs < writeBound <;> simp [write, writable, h]

/-! ### Reading -/

/-- The number that a list of digits stands for. -/
def ofDigits (ds : List Char) : Nat :=
  Nat.ofDigitChars 10 ds 0

/-- A sign, if there is one, and what follows it. -/
def splitSign : List Char → Bool × List Char
  | '-' :: cs => (true, cs)
  | cs => (false, cs)

/-- A numeral is an optional minus sign and one or more ASCII digits. -/
def isNumeral (cs : List Char) : Bool :=
  let ds := (splitSign cs).2
  !ds.isEmpty && ds.all Char.isDigit

/-- A number under the sign it was written with. -/
def signed (negative : Bool) (n : Nat) : Int :=
  if negative then -(n : Int) else n

/-- The integer that a numeral stands for. -/
def ofNumeral (cs : List Char) : Int :=
  let (negative, ds) := splitSign cs
  signed negative (ofDigits ds)

end Decimal

end PrefixCalc
