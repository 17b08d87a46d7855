import PrefixCalc.Evaluation
import PrefixCalc.Log.Record
import PrefixCalc.Settings.Basic

/-!
# The evaluator service

The service trims an expression, refuses one that is empty or too long, and reads and evaluates
the others. Each evaluated expression leaves one log entry, written before the value is: a result
at level DEBUG and an error value at level INFO, with the canonical text of the tree.

## Main definitions

* `Service`: a service with its limit.
* `Service.evaluate`: the answer to an expression, and what is logged.
-/

namespace PrefixCalc

/-- An evaluator service. -/
structure Service where
  /-- How many characters an expression may have, blanks at its ends not counted. -/
  limit : Int := 200

/-- What a call ends in, and what it logs. -/
structure Outcome (α : Type) where
  answer : Except Fault α
  log : List Log.Entry := []

namespace Service

/-- The service with the limit of the settings. -/
def ofSettings (s : Settings) : Service where
  limit := s.maxExpressionLength

/-- The name of the service's log. -/
def logger : String := "lispy.evaluator"

/-- The name of the input in the service's read errors. -/
def source : String := "<stdin>"

/-- The failure of an expression without characters. -/
def emptyExpression : Failure :=
  .ofText .parse "Expression cannot be empty."

/-- The tree of an expression, trimmed, when it is neither empty nor too long. -/
def read (s : Service) (expression : String) : Except Fault Tree :=
  let cleaned := Text.trim expression
  if cleaned.isEmpty then .error (.failure emptyExpression)
  else if s.limit < cleaned.length then
    match Decimal.write s.limit with
    | .ok limit =>
      .error (.failure (.ofText .parse ("Expression exceeds " ++ limit ++ " characters.")))
    | .error u => .error (.ofUnwritable u)
  else (Tree.parse cleaned).mapError fun e => .failure (.ofReadError source e)

/-- The log entry for an evaluated tree. -/
def entry (t : Tree) (v : Value) : Log.Entry :=
  let tree := ("tree", Json.text (t.sexpr?.getD ""))
  match v with
  | .number _ => { level := .debug, logger, message := "evaluation.ok", extra := [tree] }
  | .error k =>
    { level := .info, logger, message := "evaluation.error"
      extra := [tree, ("error_kind", .text k.name)] }

/-- The answer to an expression. -/
def evaluate (s : Service) (expression : String) : Outcome Evaluation :=
  match s.read expression with
  | .error f => { answer := .error f }
  | .ok t =>
    match t.evaluate with
    | .error m => { answer := .error (.failure (.ofMalformed m)) }
    | .ok v =>
      { answer := (Evaluation.ofValue expression v).mapError .ofUnwritable
        log := [entry t v] }

/-- The answer to an expression as a text alone. -/
def evaluateToText (s : Service) (expression : String) : Outcome String :=
  let outcome := s.evaluate expression
  { outcome with answer := outcome.answer.map Evaluation.output }

end Service

/-! ### The service as a tool -/

/-- A named function from a text to a text, as an assistant is offered it. -/
structure Tool where
  name : String
  description : String
  arguments : List String
  /-- The answer goes to the user as it is. -/
  returnsDirectly : Bool

/-- The service as a tool. -/
def Service.tool : Tool where
  name := "lispy"
  description :=
    "Evaluate a prefix arithmetic expression such as '+ 1 (* 2 3)' and return the printed result."
  arguments := ["expression"]
  returnsDirectly := true

end PrefixCalc
