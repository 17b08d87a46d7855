import PrefixCalc.Escape
import PrefixCalc.Tree.Evaluate
import PrefixCalc.Tree.Reader

/-!
# Failures

A failure is an answer: it has a kind, which fixes a status code and a type word, a message, and
details. What is no failure but stops a call all the same is an escape.

## Main definitions

* `FailureKind`: the kinds of failure.
* `Failure`: a failure with its message and details.
* `Failure.envelope`: the JSON body that reports a failure.
* `Fault`: a failure or an escape.
-/

namespace PrefixCalc

/-- The kinds of failure. -/
inductive FailureKind where
  /-- A failure of no particular kind. -/
  | general
  /-- A text that is no expression. -/
  | parse
  /-- A tree that the reader could not have made. -/
  | malformedTree
  /-- A remote evaluator that did not answer as it should. -/
  | remote
  deriving DecidableEq, Repr

namespace FailureKind

/-- The status code that a kind is answered with. -/
def status : FailureKind → Nat
  | .general => 500
  | .parse => 400
  | .malformedTree => 500
  | .remote => 502

/-- The word for a kind in an envelope and in log records. -/
def word : FailureKind → String
  | .general => "LISPY_ERROR"
  | .parse => "PARSE_ERROR"
  | .malformedTree => "MALFORMED_TREE"
  | .remote => "EVALUATOR_HTTP_ERROR"

end FailureKind

/-- A failure. The message is a text, except that a remote evaluator's message is passed on
whatever it is; without details the list is empty. -/
structure Failure where
  kind : FailureKind
  message : Json
  details : List (String × Json) := []

namespace Failure

/-- A failure with a text as its message. -/
def ofText (kind : FailureKind) (message : String) (details : List (String × Json) := []) :
    Failure :=
  { kind, message := .text message, details }

/-- The failure of a text that is no expression. -/
def ofReadError (source : String) (e : ReadError) : Failure :=
  ofText .parse (e.message source) [("column", .int e.column)]

/-- The failure of a malformed tree; an application without operands is named by its operator. -/
def ofMalformed (m : Malformed) : Failure :=
  match m with
  | .noOperands operator => ofText .malformedTree m.message [("operator", .text operator)]
  | .foreign _ => ofText .malformedTree m.message

/-- The body that reports a failure: its type and message, the details if there are any, and the
id of the request if there is one. -/
def envelope (f : Failure) (requestId : Option String) : Json :=
  let details := if f.details.isEmpty then [] else [("details", .object f.details)]
  let trace :=
    match requestId with
    | some id => if id.isEmpty then [] else [("traceId", .text id)]
    | none => []
  .object [("error", .object
    ([("type", .text f.kind.word), ("message", f.message)] ++ details ++ trace))]

end Failure

/-- What a call can end in instead of a result. -/
inductive Fault where
  | failure (f : Failure)
  | escape (e : Escape)

/-- A call that must write a value escapes when it cannot. -/
def Fault.ofUnwritable (u : Unwritable) : Fault :=
  .escape (.unwritable u)

end PrefixCalc
