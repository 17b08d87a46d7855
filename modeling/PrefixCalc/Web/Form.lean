import PrefixCalc.Text.Split
import PrefixCalc.Web.Percent

/-!
# Form encoding

The encoding of names and values in the query of a URL. Letters, digits and `-._~` stand for
themselves, `+` for a blank, and any other character is percent encoded.

## Main definitions

* `Form.encode`: a text in form encoding.
* `Form.decode`: the text that a form encoding stands for.
* `Form.pairs`: the names and values of a query.
-/

namespace PrefixCalc.Web.Form

/-! ### Writing -/

/-- A character that stands for itself. -/
def isUnreserved (c : Char) : Bool :=
  c.isAlphanum || c == '-' || c == '.' || c == '_' || c == '~'

/-- A character in form encoding. -/
def encodeChar (c : Char) : List Char :=
  if c = ' ' then ['+'] else Percent.quote isUnreserved [c]

/-- A text in form encoding. -/
def encode (s : String) : String :=
  String.ofList (s.toList.flatMap encodeChar)

/-! ### Reading -/

/-- A plus sign stands for a blank. -/
def blankOfPlus (c : Char) : Char :=
  if c = '+' then ' ' else c

/-- The text that a form encoding stands for. -/
def decode (cs : List Char) : String :=
  String.ofList (Percent.decode (cs.map blankOfPlus))

/-- A name and a value, which is empty without an equals sign. -/
def pair (part : List Char) : String × String :=
  let (name, value) := Text.cut '=' part
  (decode name, decode (value.getD []))

/-- The names and values of a query, in order; empty parts are skipped. -/
def pairs (query : String) : List (String × String) :=
  ((Text.splitAt '&' query.toList).filter fun part => !part.isEmpty).map pair

/-- The last value of a name in a query. -/
def value? (query name : String) : Option String :=
  (pairs query).reverse.lookup name

end PrefixCalc.Web.Form
