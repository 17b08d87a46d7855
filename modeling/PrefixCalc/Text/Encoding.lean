import PrefixCalc.Text.Utf8

/-!
# Encodings of a text

A text comes as octets in one of five layouts: UTF-8, or units of two or four octets in either
order. The layout shows in the zeros among the first octets, as long as the text starts with an
ASCII character.

## Main definitions

* `Encoding`: the layouts.
* `Encoding.detect`: the layout of octets.
* `Encoding.decode?`: the text that octets are in a layout.
-/

namespace PrefixCalc.Text

/-- Which octet of a unit comes first. -/
inductive OctetOrder where
  | mostSignificantFirst
  | leastSignificantFirst
  deriving DecidableEq, Repr

/-- The layouts of a text. -/
inductive Encoding where
  | utf8
  | utf16 (order : OctetOrder)
  | utf32 (order : OctetOrder)
  deriving DecidableEq, Repr

namespace Encoding

/-- The layout of the octets of a text that starts with an ASCII character. -/
def detect : List UInt8 → Encoding
  | [a, b] =>
    if a = 0 then .utf16 .mostSignificantFirst
    else if b = 0 then .utf16 .leastSignificantFirst
    else .utf8
  | a :: b :: c :: d :: _ =>
    if a = 0 then
      if b = 0 then .utf32 .mostSignificantFirst else .utf16 .mostSignificantFirst
    else if b = 0 then
      if c = 0 ∧ d = 0 then .utf32 .leastSignificantFirst else .utf16 .leastSignificantFirst
    else .utf8
  | _ => .utf8

/-- The value of a unit. -/
def unit (order : OctetOrder) (octets : List UInt8) : Nat :=
  let ordered := if order = .mostSignificantFirst then octets else octets.reverse
  ordered.foldl (fun n o => n * 256 + o.toNat) 0

/-- The units of two octets each, if no octet is left over. -/
def units16? (order : OctetOrder) : List UInt8 → Option (List Nat)
  | [] => some []
  | a :: b :: rest => (units16? order rest).map (unit order [a, b] :: ·)
  | _ => none

/-- The units of four octets each, if no octet is left over. -/
def units32? (order : OctetOrder) : List UInt8 → Option (List Nat)
  | [] => some []
  | a :: b :: c :: d :: rest => (units32? order rest).map (unit order [a, b, c, d] :: ·)
  | _ => none

/-- The character that is a code point, if it is one. -/
def charOf? (n : Nat) : Option Char :=
  if n.isValidChar then some (Char.ofNat n) else none

/-- The characters of 16-bit units; two units that are the halves of a character are joined. -/
def ofUnits16? : List Nat → Option (List Char)
  | [] => some []
  | [n] => (charOf? n).map fun c => [c]
  | m :: n :: rest =>
    if 0xD800 ≤ m ∧ m < 0xDC00 ∧ 0xDC00 ≤ n ∧ n < 0xE000 then
      let joined := 0x10000 + (m - 0xD800) * 0x400 + (n - 0xDC00)
      (ofUnits16? rest).map (Char.ofNat joined :: ·)
    else do
      return (← charOf? m) :: (← ofUnits16? (n :: rest))

/-- The text that octets are in a layout. -/
def decode? (octets : List UInt8) : Encoding → Option (List Char)
  | .utf8 => some (Utf8.ofOctets octets)
  | .utf16 order => (units16? order octets).bind ofUnits16?
  | .utf32 order => (units32? order octets).bind fun units => units.mapM charOf?

end Encoding

end PrefixCalc.Text
