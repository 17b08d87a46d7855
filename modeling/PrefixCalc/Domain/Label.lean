import PrefixCalc.Domain.Permitted
import PrefixCalc.Domain.Punycode
import PrefixCalc.Text.Composition
import PrefixCalc.Text.Direction
import PrefixCalc.Text.Joining
import PrefixCalc.Text.Script

/-!
# Labels of domain names

A label is a part of a domain name between dots. It is in composed form, does not start with a
mark, does not start or end with a hyphen, and holds permitted characters alone. A few more
characters are allowed beside certain others. A label with letters from right to left must not mix
directions.

In ASCII a label with other characters is its Punycode behind `xn--`.

## Main definitions

* `Domain.Fault`: what can be wrong with a label.
* `Domain.labelFault?`: what is wrong with a label first.
* `Domain.asciiLabelFault?`: the same for a label in ASCII, which may be one behind `xn--`.
* `Domain.asciiLabel?`: a label in ASCII.
-/

namespace PrefixCalc.Domain

/-- What can be wrong with a label. -/
inductive Fault where
  /-- Its form is wrong, or a joiner in it joins nothing. -/
  | form
  /-- A character is not permitted. -/
  | character
  /-- A character is not permitted beside those around it. -/
  | context
  /-- Directions are mixed. -/
  | direction
  deriving DecidableEq, Repr

/-- A label has at most so many characters. -/
def maxLabelLength : Nat := 63

/-! ### Characters in context -/

/-- The characters that keep letters apart or join them. -/
def isJoiner (n : Nat) : Bool :=
  n == 0x200C || n == 0x200D

/-- A joiner between two parts of a label, the part before it in reverse. It follows a mark that
joins consonants, or else it keeps two letters apart that would join. -/
def joinerFits (before : List Nat) (n : Nat) (behind : List Nat) : Bool :=
  before.head?.any (fun m => Text.combiningClass m == Text.joinerClass) ||
    (n == 0x200C && (before.dropWhile Text.isTransparent).head?.any Text.joinsNext &&
      (behind.dropWhile Text.isTransparent).head?.any Text.joinsPrevious)

/-- The two sets of digits that a label must not mix. -/
def isArabicDigit (n : Nat) : Bool :=
  0x660 ≤ n && n ≤ 0x669

/-- The second of these sets. -/
def isExtendedArabicDigit (n : Nat) : Bool :=
  0x6F0 ≤ n && n ≤ 0x6F9

/-- The sign that stands between words of Japanese. -/
def middleDot : Nat := 0x30FB

/-- The characters that are allowed beside certain others. -/
def isContextual (n : Nat) : Bool :=
  [0xB7, 0x375, 0x5F3, 0x5F4, middleDot].contains n || isArabicDigit n || isExtendedArabicDigit n

/-- Such a character between two parts of a label, the part before it in reverse. -/
def contextFits (label before : List Nat) (n : Nat) (behind : List Nat) : Bool :=
  if n = 0xB7 then before.head? == some 'l'.toNat && behind.head? == some 'l'.toNat
  else if n = 0x375 then behind.head?.any Text.isGreek
  else if n = 0x5F3 ∨ n = 0x5F4 then before.head?.any Text.isHebrew
  else if n = middleDot then label.any Text.isJapanese
  else if isArabicDigit n then !label.any isExtendedArabicDigit
  else !label.any isArabicDigit

/-- What is wrong with a character between two parts of a label. -/
def characterFault? (label before : List Nat) (n : Nat) (behind : List Nat) : Option Fault :=
  if isPermitted n then none
  else if isJoiner n then if joinerFits before n behind then none else some .form
  else if isContextual n then if contextFits label before n behind then none else some .context
  else some .character

/-- What is wrong first with the characters of the rest of a label, what stands before them in
reverse. -/
def charactersFault? (label before : List Nat) : List Nat → Option Fault
  | [] => none
  | n :: ns => (characterFault? label before n ns).or (charactersFault? label (n :: before) ns)

/-! ### Directions -/

/-- A direction from right to left, of letters or of digits. -/
def goesLeft (d : Text.Direction) : Bool :=
  d == .rightToLeft || d == .arabic || d == .arabicDigit

/-- The last direction of a label, marks apart. -/
def ending (ds : List Text.Direction) : Option Text.Direction :=
  (ds.reverse.dropWhile (· == .mark)).head?

/-- A label in which something goes from right to left starts with a letter that does, holds none
that goes from left to right and digits of one kind alone, and ends in a letter or a digit. -/
def directionsFit (ds : List Text.Direction) : Bool :=
  if ds.any goesLeft then
    ds.head?.any (fun d => d == .rightToLeft || d == .arabic) && !ds.contains .leftToRight &&
      !(ds.contains .arabicDigit && ds.contains .europeanDigit) &&
      (ending ds).any fun d => goesLeft d || d == .europeanDigit
  else true

/-! ### Labels -/

/-- Hyphens stand neither at an end nor as third and fourth character. -/
def hyphensFit (label : List Nat) : Bool :=
  let hyphen := '-'.toNat
  label.head? != some hyphen && label.getLast? != some hyphen &&
    (label.drop 2).take 2 != [hyphen, hyphen]

/-- The form of a label is right. -/
def formFits (label : List Nat) : Bool :=
  !label.isEmpty && Text.isComposed label && hyphensFit label &&
    !label.head?.any Text.isMark

/-- What is wrong with a label first. -/
def labelFault? (label : List Nat) : Option Fault :=
  if formFits label then
    (charactersFault? label [] label).or
      (if directionsFit (label.map Text.directionOf) then none else some .direction)
  else some .form

/-- What Punycode stands behind. -/
def codePrefix : List Char := ['x', 'n', '-', '-']

/-- What is wrong with the label that Punycode stands for. -/
def codeFault? (code : List Char) : Option Fault :=
  if code.isEmpty || code.getLast? == some '-' then some .form
  else
    match Punycode.decode? code with
    | some label => labelFault? label
    | none => some .form

/-- What is wrong with a label in ASCII first. -/
def asciiLabelFault? (label : List Char) : Option Fault :=
  let label := label.map Char.toLower
  if codePrefix.isPrefixOf label then codeFault? (label.drop codePrefix.length)
  else labelFault? (label.map Char.toNat)

/-- A label in ASCII, as it is or behind `xn--`, if nothing is wrong with it. -/
def asciiLabel? (label : List Char) : Option (List Char) :=
  let points := label.map Char.toNat
  let (fault, written) :=
    if points.all (· < Punycode.firstPoint) then (asciiLabelFault? label, label)
    else (labelFault? points, codePrefix ++ Punycode.encode points)
  if fault.isNone && written.length ≤ maxLabelLength then some written else none

end PrefixCalc.Domain
