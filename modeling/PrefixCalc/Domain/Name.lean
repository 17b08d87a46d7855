import PrefixCalc.Domain.Label
import PrefixCalc.Text.Lowercase
import PrefixCalc.Text.Split

/-!
# Domain names

A domain name is a sequence of labels with dots between them, and possibly a dot at its end. Three
wide dots count as dots.

## Main definitions

* `Domain.ascii?`: a name in ASCII, in small letters.
* `Domain.nameFault?`: what is wrong with a name in ASCII.
-/

namespace PrefixCalc.Domain

/-- A name has at most so many characters, a dot at its end not counted. -/
def maxNameLength : Nat := 253

/-- The dots. -/
def isDot (c : Char) : Bool :=
  c == '.' || c == '\u3002' || c == '\uff0e' || c == '\uff61'

/-- The labels of a name, and whether a dot stands at its end. -/
def labels (name : List Char) : List (List Char) × Bool :=
  let parts := Text.splitAt '.' (name.map fun c => if isDot c then '.' else c)
  if 1 < parts.length ∧ parts.getLast? = some [] then (parts.dropLast, true) else (parts, false)

/-- A name in ASCII, in small letters, if nothing is wrong with it. -/
def ascii? (name : List Char) : Option (List Char) := do
  let (parts, dotted) := labels (Text.lowercase name)
  let written := List.intercalate ['.'] (← parts.mapM asciiLabel?)
  if written.length ≤ maxNameLength then
    some (if dotted then written ++ ['.'] else written)
  else none

/-- What is wrong first with a name in ASCII. -/
def nameFault? (name : List Char) : Option Fault :=
  if maxNameLength + 1 < name.length then some .form
  else (labels name).1.findSome? asciiLabelFault?

end PrefixCalc.Domain
