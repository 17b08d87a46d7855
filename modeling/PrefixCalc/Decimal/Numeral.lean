import PrefixCalc.Decimal.Integer
import PrefixCalc.Decimal.Real
import PrefixCalc.Text.Blank

/-!
# Numbers as people write them

The numerals that a setting or a loosely typed JSON member may hold. They are read more kindly
than literals of expressions: spaces around them, a plus sign, single underscores between digits
and a fraction of zeros are allowed.

## Main definitions

* `Numeral.readInteger`: the integer that a text stands for.
* `Numeral.toReal?`: the floating-point number that a text stands for.
-/

namespace PrefixCalc.Numeral

/-! ### Parts of a numeral -/

/-- The characters without underscores, which may stand only one at a time and not at an end. -/
def withoutUnderscores (cs : List Char) : Option (List Char) :=
  if cs.head? = some '_' ∨ cs.getLast? = some '_' ∨ (cs.zip cs.tail).contains ('_', '_') then none
  else some (cs.filter (· != '_'))

/-- The characters without a point and the zeros behind it, of which there must be one. -/
def withoutZeroFraction (cs : List Char) : List Char :=
  match cs.dropWhile (· != '.') with
  | _ :: '0' :: fraction => if fraction.all (· == '0') then cs.takeWhile (· != '.') else cs
  | _ => cs

/-- The characters without zeros at the start, the last one kept; an underscore among the zeros
counts as one of them. Behind the zeros a digit, a minus sign or a point must follow. -/
def withoutLeadingZeros : List Char → Option (List Char)
  | '0' :: cs =>
    let rest := cs.dropWhile fun c => c == '0' || c == '_'
    let zeros := '0' :: cs.takeWhile fun c => c == '0' || c == '_'
    match rest with
    | [] => some (zeros.getLast?.toList)
    | '.' :: _ => some (zeros.getLast?.toList ++ rest)
    | c :: _ => if c = '-' ∨ c.isDigit then some rest else none
  | c :: cs => if c.isDigit then some (c :: cs) else none
  | [] => none

/-- The characters without zeros at the start or behind a minus sign at the start. -/
def withoutZeros : List Char → Option (List Char)
  | '-' :: cs => (withoutLeadingZeros cs).map ('-' :: ·)
  | cs => withoutLeadingZeros cs

/-- The characters without a plus sign, behind which no other sign may follow. -/
def withoutPlus : List Char → Option (List Char)
  | '+' :: '-' :: _ => none
  | '+' :: cs => some cs
  | cs => some cs

/-! ### Integers -/

/-- What a text is to a reader of integers. -/
inductive IntegerReading where
  | int (n : Int)
  | tooLong
  | malformed
  deriving DecidableEq, Repr

/-- A bare numeral: an optional minus sign and digits, with a zero at the start only alone. -/
def isBare (cs : List Char) : Bool :=
  let ds := (Decimal.splitSign cs).2
  Decimal.isNumeral cs && (ds.length == 1 || ds.head? != some '0')

/-- The bare numeral in a text, if there is one when all that may be left out is. -/
def bare? (s : String) : Option (List Char) := do
  let cs ← withoutPlus (Text.trimEnds Text.isSpace s.toList)
  let cs ← withoutZeros cs
  withoutUnderscores (withoutZeroFraction cs)

/-- How many digits the characters start with, a minus sign not counted, when the first is not a
zero. -/
def leadingDigits (cs : List Char) : Nat :=
  let ds := (Decimal.splitSign cs).2
  if ds.head? = some '0' then 0 else (ds.takeWhile Char.isDigit).length

/-- The integer that a bare numeral of no more than `Decimal.maxDigits` digits stands for. -/
def ofBare? (cs : List Char) : Option Int :=
  if isBare cs && leadingDigits cs ≤ Decimal.maxDigits then some (Decimal.ofNumeral cs) else none

/-- The integer that a text stands for, as it is or without what may be left out. A text that
starts with more than `Decimal.maxDigits` digits is too long, whatever follows them. -/
def readInteger (s : String) : IntegerReading :=
  if Decimal.maxDigits < leadingDigits s.toList then .tooLong
  else
    match (ofBare? s.toList).or ((bare? s).bind ofBare?) with
    | some n => .int n
    | none => .malformed

/-! ### Floating-point numbers -/

/-- A sign, which may be a plus sign, and what follows it. -/
def splitEitherSign : List Char → Bool × List Char
  | '+' :: cs => (false, cs)
  | cs => Decimal.splitSign cs

/-- The exponent that a text ends in: none, or a letter `e`, a sign and digits. -/
def exponent? : List Char → Option Int
  | [] => some 0
  | c :: cs =>
    let (negative, ds) := splitEitherSign cs
    if c.toLower = 'e' && !ds.isEmpty && ds.all Char.isDigit then
      some (Decimal.signed negative (Decimal.ofDigits ds))
    else none

/-- A decimal fraction: digits with a point before, among or behind them, and an exponent. -/
def fraction? (negative : Bool) (cs : List Char) : Option Real64 := do
  let whole := cs.takeWhile Char.isDigit
  let rest := cs.dropWhile Char.isDigit
  let (fraction, rest) :=
    match rest with
    | '.' :: r => (r.takeWhile Char.isDigit, r.dropWhile Char.isDigit)
    | r => ([], r)
  let e ← exponent? rest
  if whole.isEmpty && fraction.isEmpty then none
  else some (Real64.ofDecimal negative (Decimal.ofDigits (whole ++ fraction)) (e - fraction.length))

/-- The number that the characters stand for: a decimal fraction, or a word for a number that is
not finite, in letters of either case. -/
def ofChars? (cs : List Char) : Option Real64 :=
  let (negative, cs) := splitEitherSign cs
  match String.ofList (cs.map Char.toLower) with
  | "inf" => some (.infinite negative)
  | "infinity" => some (.infinite negative)
  | "nan" => some .nan
  | _ => fraction? negative cs

/-- The floating-point number that a text stands for. Spaces around it and underscores in it are
allowed, but not both. -/
def toReal? (s : String) : Option Real64 :=
  match ofChars? (Text.trimEnds Text.isSpace s.toList) with
  | some x => some x
  | none => (withoutUnderscores s.toList).bind ofChars?

end PrefixCalc.Numeral
