import PrefixCalc.Value
import PrefixCalc.Web.Place
import PrefixCalc.Web.Url

/-!
# Escapes

What stops a call without being an answer to it. Nothing in the program handles an escape.

## Main definitions

* `Escape`: the escapes.
-/

namespace PrefixCalc

/-- What stops a call without being an answer. -/
inductive Escape where
  /-- A value has no written form. -/
  | unwritable (u : Unwritable)
  /-- An operand was refused. -/
  | operand (e : OperandError)
  /-- A text holds a value that is nested too deep. -/
  | tooDeep
  /-- A text is no URL that a request can be sent to. -/
  | address (r : Web.Url.Refusal)
  /-- An address leads to no place: that of a request that is served, or that of a request which an
  answer came to. -/
  | unplaced (u : Web.Unplaced)

/-- The wording of what is wrong with an address. -/
def unplacedMessage : Web.Unplaced → String
  | .bare path => "unknown url type: " ++ Text.quoted path
  | .brackets => "Invalid IPv6 URL"
  | .later => "IPvFuture address is invalid"
  | .short => "An IPv4 address cannot be in brackets"
  | .unnumbered text => Text.quoted text ++ " does not appear to be an IPv4 or IPv6 address"
  | .folded authority =>
    "netloc '" ++ authority ++ "' contains invalid characters under NFKC normalization"

end PrefixCalc
