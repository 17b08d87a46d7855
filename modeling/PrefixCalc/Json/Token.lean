import PrefixCalc.Json.Basic

/-!
# The tokens of JSON

A JSON text is a sequence of tokens: six marks, texts between double quotes, and words, which are
the numbers and the named constants. Blanks may stand between tokens.

The scanner takes one character at a time and stops at the first that cannot stand where it is. In
a text, two escapes that are the halves of one character are joined; a text with a half that stays
alone is broken. A word is a longest run of word characters, so that what may follow a number is
decided by the reader of the tokens.

## Main definitions

* `Token`: the tokens; `Token.write`: the one way in which each is written.
* `Token.scan`: the tokens of a text.
-/

namespace PrefixCalc.Json

/-- A number or a named constant. -/
inductive Word where
  | null
  | bool (b : Bool)
  | int (n : Int)
  | real (x : Real64)
  deriving DecidableEq, Repr

/-- The value that a word stands for. -/
def Word.value : Word → Json
  | .null => .null
  | .bool b => .bool b
  | .int n => .int n
  | .real x => .real x

/-- A token of a JSON text. -/
inductive Token where
  | openArray
  | closeArray
  | openObject
  | closeObject
  | colon
  | comma
  | word (w : Word)
  | text (s : String)
  /-- A text in which half of a character stands alone. -/
  | broken (points : List Nat)
  deriving DecidableEq, Repr

/-! ### Writing -/

/-- A character of a text: the quote, the backslash and the control characters are escaped. -/
def escaped (c : Char) : List Char :=
  if c = '"' then ['\\', '"']
  else if c = '\\' then ['\\', '\\']
  else if c = '\n' then ['\\', 'n']
  else if c = '\r' then ['\\', 'r']
  else if c = '\t' then ['\\', 't']
  else if c = '\x0c' then ['\\', 'f']
  else if c = '\x08' then ['\\', 'b']
  else if c.toNat < 0x20 then '\\' :: 'u' :: Text.hexNumeral .lower 4 c.toNat
  else [c]

/-- A text between its quotes. -/
def quotedText (s : String) : String :=
  String.ofList ('"' :: s.toList.flatMap escaped ++ ['"'])

/-- The text of a word; a number that is not finite has none. -/
def Word.write : Word → Except Unwritable String
  | .null => .ok "null"
  | .bool true => .ok "true"
  | .bool false => .ok "false"
  | .int n => Decimal.write n
  | .real (.finite negative m q) => .ok (Real64.finite negative m q).text
  | .real _ => .error .notFinite

/-- The text of a token; a broken text has none. -/
def Token.write : Token → Except Unwritable String
  | .openArray => .ok "["
  | .closeArray => .ok "]"
  | .openObject => .ok "\x7b"
  | .closeObject => .ok "\x7d"
  | .colon => .ok ":"
  | .comma => .ok ","
  | .word w => w.write
  | .text s => .ok (quotedText s)
  | .broken _ => .error .halfCharacter

/-- A text in which half of a character stands alone. -/
def Token.isBroken : Token → Bool
  | .broken _ => true
  | _ => false

/-! ### Reading words -/

/-- The digits at the start, and what follows them. -/
def digitRun (cs : List Char) : List Char × List Char :=
  (cs.takeWhile Char.isDigit, cs.dropWhile Char.isDigit)

/-- The digits behind a decimal point, if there is a point with digits. -/
def fractionPart : List Char → Option (List Char × List Char)
  | '.' :: cs =>
    let (ds, rest) := digitRun cs
    if ds.isEmpty then none else some (ds, rest)
  | cs => some ([], cs)

/-- The exponent behind an `e`, if there is one with digits, and nothing behind it. -/
def exponentPart : List Char → Option (Option Int)
  | [] => some none
  | c :: cs =>
    if c = 'e' ∨ c = 'E' then
      let (negative, ds) :=
        match cs with
        | '+' :: r => (false, r)
        | r => Decimal.splitSign r
      if !ds.isEmpty && ds.all Char.isDigit then
        some (some (Decimal.signed negative (Decimal.ofDigits ds)))
      else none
    else none

/-- A number: a whole part without needless zeros, a fraction and an exponent. Without fraction
and exponent it is an integer, of no more digits than may be written. -/
def Word.ofNumeral? (cs : List Char) : Option Word := do
  let (negative, unsigned) := Decimal.splitSign cs
  let (whole, rest) := digitRun unsigned
  if whole.isEmpty || (whole.length != 1 && whole.head? == some '0') then none
  else
    let (fraction, rest) ← fractionPart rest
    let exponent ← exponentPart rest
    if fraction.isEmpty && exponent.isNone then
      if whole.length ≤ Decimal.maxDigits then
        some (.int (Decimal.signed negative (Decimal.ofDigits whole)))
      else none
    else
      some (.real (Real64.ofDecimal negative (Decimal.ofDigits (whole ++ fraction))
        (exponent.getD 0 - fraction.length)))

/-- The word that a run of word characters is. -/
def Word.ofChars? (cs : List Char) : Option Word :=
  match String.ofList cs with
  | "null" => some .null
  | "true" => some (.bool true)
  | "false" => some (.bool false)
  | "NaN" => some (.real .nan)
  | "Infinity" => some (.real (.infinite false))
  | "-Infinity" => some (.real (.infinite true))
  | _ => Word.ofNumeral? cs

/-- The characters of words. -/
def isWordChar (c : Char) : Bool :=
  c.isAlphanum || c == '+' || c == '-' || c == '.'

/-- The blanks that may stand between tokens. -/
def isGap (c : Char) : Bool :=
  c == ' ' || c == '\t' || c == '\n' || c == '\r'

/-- The mark that a character is. -/
def mark? : Char → Option Token
  | '[' => some .openArray
  | ']' => some .closeArray
  | '{' => some .openObject
  | '}' => some .closeObject
  | ':' => some .colon
  | ',' => some .comma
  | _ => none

/-! ### Reading texts -/

/-- The first half of a character that takes two 16-bit units. -/
def isFirstHalf (n : Nat) : Bool :=
  0xD800 ≤ n && n < 0xDC00

/-- The second half of such a character. -/
def isSecondHalf (n : Nat) : Bool :=
  0xDC00 ≤ n && n < 0xE000

/-- The code points of a text, in reverse, with one more 16-bit unit. -/
def pushUnit (reversed : List Nat) (n : Nat) : List Nat :=
  match reversed with
  | h :: rest =>
    if isFirstHalf h && isSecondHalf n then
      (0x10000 + (h - 0xD800) * 0x400 + (n - 0xDC00)) :: rest
    else n :: reversed
  | [] => [n]

/-- The text that code points are. -/
def Token.ofPoints (points : List Nat) : Token :=
  if Text.isWhole points then .text (Text.ofPoints points) else .broken points

/-- The character that a one-letter escape stands for. -/
def unescape? : Char → Option Char
  | '"' => some '"'
  | '\\' => some '\\'
  | '/' => some '/'
  | 'b' => some '\x08'
  | 'f' => some '\x0c'
  | 'n' => some '\n'
  | 'r' => some '\r'
  | 't' => some '\t'
  | _ => none

/-! ### The scanner -/

/-- Where the scanner stands. -/
inductive ScanState where
  /-- Between tokens. -/
  | between
  /-- In a word, its characters in reverse. -/
  | word (reversed : List Char)
  /-- In a text, its code points in reverse. -/
  | text (reversed : List Nat)
  /-- In a text, behind a backslash. -/
  | escape (reversed : List Nat)
  /-- In a text, in an escape by code unit: digits that are missing, and the value so far. -/
  | unit (reversed : List Nat) (missing : Nat) (value : Nat)

/-- A character outside words and texts. -/
def scanBetween (c : Char) : Option (List Token × ScanState) :=
  if isGap c then some ([], .between)
  else if c = '"' then some ([], .text [])
  else if isWordChar c then some ([], .word [c])
  else (mark? c).map fun t => ([t], .between)

/-- One character: the tokens that it completes, and where the scanner stands after it. -/
def scanStep : ScanState → Char → Option (List Token × ScanState)
  | .between, c => scanBetween c
  | .word reversed, c =>
    if isWordChar c then some ([], .word (c :: reversed))
    else do
      let w ← Word.ofChars? reversed.reverse
      let (ts, next) ← scanBetween c
      return (.word w :: ts, next)
  | .text reversed, c =>
    if c = '"' then some ([.ofPoints reversed.reverse], .between)
    else if c = '\\' then some ([], .escape reversed)
    else if c.toNat < 0x20 then none
    else some ([], .text (c.toNat :: reversed))
  | .escape reversed, c =>
    if c = 'u' then some ([], .unit reversed 4 0)
    else (unescape? c).map fun d => ([], .text (d.toNat :: reversed))
  | .unit reversed missing value, c => do
    let digit ← Text.hexValue? c
    let value := value * 16 + digit
    if missing ≤ 1 then return ([], .text (pushUnit reversed value))
    else return ([], .unit reversed (missing - 1) value)

/-- The tokens of the rest of a text, from where the scanner stands, up to a character that cannot
stand where it is; and whether there is no such character and the text does not end in a token. -/
def scanFrom : ScanState → List Char → List Token × Bool
  | .between, [] => ([], true)
  | .word reversed, [] =>
    match Word.ofChars? reversed.reverse with
    | some w => ([.word w], true)
    | none => ([], false)
  | _, [] => ([], false)
  | s, c :: cs =>
    match scanStep s c with
    | some (ts, next) =>
      let (rest, whole) := scanFrom next cs
      (ts ++ rest, whole)
    | none => ([], false)

/-- The tokens of a text, and whether it consists of tokens and blanks alone. -/
def Token.scan (s : String) : List Token × Bool :=
  scanFrom .between s.toList

end PrefixCalc.Json
