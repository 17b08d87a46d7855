import PrefixCalc.Text.Hex
import PrefixCalc.Text.Split

/-!
# Numeric addresses

A host may be given by its number: four decimal numbers with dots between them, or eight
hexadecimal ones with colons, of which a row may be left out once. The last two of the eight may be
written as four decimal ones, and a zone may follow behind a percent sign.

## Main definitions

* `Address.isShort`, `Address.isLong`: the two forms.
* `Address.looksShort`: what is taken for the first form, right or wrong.
-/

namespace PrefixCalc.Web.Address

/-! ### Four numbers -/

/-- One of four numbers: at most 255, without needless zeros. -/
def isShortPart (cs : List Char) : Bool :=
  !cs.isEmpty && cs.length ≤ 3 && cs.all Char.isDigit && (cs == ['0'] || cs.head? != some '0') &&
    Nat.ofDigitChars 10 cs 0 ≤ 255

/-- Four numbers with dots between them. -/
def isShort (cs : List Char) : Bool :=
  let parts := Text.splitAt '.' cs
  parts.length == 4 && parts.all isShortPart

/-- Where a reader of groups of digits may stand behind one more character. An odd place is in a
group, and an even one behind the character that ends a group. -/
def groupStep (c : Char) (place : Nat) : List Nat :=
  let inGroup := place % 2 == 1
  (if c.isDigit then [if inGroup then place else place + 1] else []) ++
    (if inGroup then [place + 1] else [])

/-- Four groups of digits, with one character of any kind between each two: what is taken for four
numbers. -/
def looksShort (cs : List Char) : Bool :=
  let last := 7
  let step := fun places c => ((places.flatMap (groupStep c)).filter (· ≤ last)).eraseDups
  (cs.foldl step [0]).contains last

/-! ### Eight numbers -/

/-- One of eight numbers. -/
def isLongPart (cs : List Char) : Bool :=
  !cs.isEmpty && cs.length ≤ 4 && cs.all fun c => (Text.hexValue? c).isSome

/-- The parts between colons, a last part of four numbers counted as two parts. -/
def longParts? (cs : List Char) : Option (List (List Char)) :=
  let parts := Text.splitAt ':' cs
  match parts.getLast? with
  | some last =>
    if last.contains '.' then
      if isShort last then some (parts.dropLast ++ [['0'], ['0']]) else none
    else some parts
  | none => none

/-- The parts on one side of two colons; there may be none. -/
def sideParts (parts : List (List Char)) : List (List Char) :=
  if parts == [[]] then [] else parts

/-- Eight parts, or fewer with two colons in place of those that are left out. -/
def partsFit (parts : List (List Char)) : Bool :=
  let inner := parts.tail.dropLast
  let kept := inner.takeWhile (!·.isEmpty)
  if kept.length < inner.length then
    let before := sideParts (parts.take (kept.length + 1))
    let behind := sideParts (parts.drop (kept.length + 2))
    (before ++ behind).length < 8 && (before ++ behind).all isLongPart
  else parts.length == 8 && parts.all isLongPart

/-- Eight numbers with colons between them, and possibly a zone. -/
def isLong (cs : List Char) : Bool :=
  let (number, zone) := Text.cut '%' cs
  zone.all (fun z => !z.isEmpty && !z.contains '%') && (longParts? number).any partsFit

end PrefixCalc.Web.Address
