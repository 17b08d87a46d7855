import PrefixCalc.Text.Quoted
import PrefixCalc.Web.Address

/-!
# Places

An address leads to a place if it has a scheme and an authority, which names the host. An authority
may hold a numeric address between brackets, and then nothing else may stand there. And it may hold
no character that is taken for one of those that separate the parts of an address, once characters
are brought into their plain form.

## Main definitions

* `Unplaced`: why an address leads to no place.
* `Place.fault?`: what is wrong with an authority.
-/

namespace PrefixCalc.Web

/-- Why an address leads to no place. -/
inductive Unplaced where
  /-- It is a bare path. -/
  | bare (path : String)
  /-- Brackets of one kind stand in the authority, and none of the other. -/
  | brackets
  /-- Between brackets stands what starts like an address of a later version, and is none. -/
  | later
  /-- Between brackets stand four numbers. -/
  | short
  /-- Between brackets stands no numeric address. -/
  | unnumbered (text : String)
  /-- A character of the authority is taken for one that separates. -/
  | folded (authority : String)
  deriving DecidableEq, Repr

namespace Place

/-- The code points of the characters whose plain form holds a separating character. -/
def foldingPoints : List Nat :=
  [0x2047, 0x2048, 0x2049, 0x2100, 0x2101, 0x2105, 0x2106, 0x2A74, 0xFE13, 0xFE16, 0xFE55, 0xFE56,
    0xFE5F, 0xFE6B, 0xFF03, 0xFF0F, 0xFF1A, 0xFF1F, 0xFF20]

/-- A character is taken for one that separates. -/
def isFolding (c : Char) : Bool :=
  foldingPoints.contains c.toNat

/-- An address of a later version: its number in hexadecimal digits, a dot, and the address. -/
def isLater (cs : List Char) : Bool :=
  let isDigit := fun c => (Text.hexValue? c).isSome
  match cs with
  | 'v' :: rest =>
    let address := rest.dropWhile isDigit
    rest.head?.any isDigit && address.head? == some '.' && 1 < address.length
  | _ => false

/-- What is wrong with a text between brackets. -/
def innerFault? (cs : List Char) : Option Unplaced :=
  if cs.head? = some 'v' then if isLater cs then none else some .later
  else if Address.isShort cs then some .short
  else if Address.isLong cs then none
  else some (.unnumbered (String.ofList cs))

/-- What is wrong with the brackets of an authority. -/
def bracketFault? (authority : List Char) : Option Unplaced :=
  match authority.contains '[', authority.contains ']' with
  | false, false => none
  | true, true =>
    innerFault? (((authority.dropWhile (· != '[')).drop 1).takeWhile (· != ']'))
  | _, _ => some .brackets

/-- What is wrong with an authority. -/
def fault? (authority : List Char) : Option Unplaced :=
  (bracketFault? authority).or
    (if authority.any isFolding then some (.folded (String.ofList authority)) else none)

end Place

end PrefixCalc.Web
