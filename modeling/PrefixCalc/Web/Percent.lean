import PrefixCalc.Text.Hex
import PrefixCalc.Text.Utf8

/-!
# Percent encoding

A character that may not stand in a part of a URL is written as its octets, each as a percent sign
and two digits. Reading is lenient: a percent sign without two digits stands for itself. The
reader takes one character at a time.

## Main definitions

* `Percent.quote`: a text in which only the characters of a class stand for themselves.
* `Percent.decode`: the text that a percent encoding stands for.
-/

namespace PrefixCalc.Web.Percent

/-! ### Writing -/

/-- An octet as a percent sign and two capital digits. -/
def triplet (b : UInt8) : List Char :=
  '%' :: Text.hexNumeral .upper 2 b.toNat

/-- A character as its octets. -/
def quoteChar (c : Char) : List Char :=
  (String.utf8EncodeChar c).flatMap triplet

/-- A text in which only the characters of a class stand for themselves. -/
def quote (isSafe : Char → Bool) (cs : List Char) : List Char :=
  cs.flatMap fun c => if isSafe c then [c] else quoteChar c

/-! ### Reading -/

/-- The octet that two digits stand for. -/
def octet? (high low : Char) : Option UInt8 :=
  match Text.hexValue? high, Text.hexValue? low with
  | some h, some l => some (UInt8.ofNat (h * 16 + l))
  | _, _ => none

/-- Where the reader stands: at no percent sign, behind one, or behind one and a digit. -/
inductive ReadState where
  | plain
  | sign
  | digit (high : Char)
  deriving DecidableEq, Repr

/-- A character that no percent sign stands before. -/
def readPlain (c : Char) : List UInt8 × ReadState :=
  if c = '%' then ([], .sign) else (String.utf8EncodeChar c, .plain)

/-- One character: the octets that it completes, and where the reader stands after it. A percent
sign without two digits, and a digit behind it, stand for themselves. -/
def readStep : ReadState → Char → List UInt8 × ReadState
  | .plain, c => readPlain c
  | .sign, c =>
    if (Text.hexValue? c).isSome then ([], .digit c)
    else
      let (out, next) := readPlain c
      (String.utf8EncodeChar '%' ++ out, next)
  | .digit high, c =>
    match octet? high c with
    | some o => ([o], .plain)
    | none =>
      let (out, next) := readPlain c
      (String.utf8EncodeChar '%' ++ String.utf8EncodeChar high ++ out, next)

/-- The octets of the rest of a text, from where the reader stands. -/
def octetsFrom : ReadState → List Char → List UInt8
  | .plain, [] => []
  | .sign, [] => String.utf8EncodeChar '%'
  | .digit high, [] => String.utf8EncodeChar '%' ++ String.utf8EncodeChar high
  | s, c :: cs => (readStep s c).1 ++ octetsFrom (readStep s c).2 cs

/-- The text that a percent encoding stands for. -/
def decode (cs : List Char) : List Char :=
  Text.Utf8.ofOctets (octetsFrom .plain cs)

end PrefixCalc.Web.Percent
