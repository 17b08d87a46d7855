import PrefixCalc.Json.Text
import PrefixCalc.Service
import PrefixCalc.Settings.Basic
import PrefixCalc.Text.Encoding
import PrefixCalc.Web.Form

/-!
# The remote evaluator

A client sends an expression to an evaluator elsewhere and makes a result or a failure of what
comes back. How a request travels is the business of a transport, which has a state of its own.

## Main definitions

* `Evaluator`: anything that evaluates expressions.
* `Remote.Delivery`: what a transport brings back.
* `Remote.accept`: the result or the failure that a delivery is.
* `Remote.Client.evaluate`: an expression evaluated elsewhere.
-/

namespace PrefixCalc

/-- What evaluates expressions, with a state that may change with each. -/
abbrev Evaluator (σ : Type) := σ → String → Outcome Evaluation × σ

/-- The service as an evaluator; it has no state. -/
def Service.evaluator (s : Service) : Evaluator Unit := fun _ expression =>
  (s.evaluate expression, ())

namespace Remote

/-- What a transport brings back for a request. -/
inductive Delivery where
  /-- The request did not arrive, or its answer did not. -/
  | failed
  | response (status : Nat) (body : String)
  /-- An application in the same process was stopped by an escape. -/
  | escaped (e : Escape)

/-- How requests travel. -/
structure Transport (σ : Type) where
  /-- Makes ready for a request. -/
  prepare : σ → σ
  /-- Sends a request. -/
  send : σ → Web.Url → Delivery × σ

/-! ### Deliveries -/

/-- The failure of a remote evaluator, with a text as its message. -/
def failure (message : String) : Failure :=
  .ofText .remote message

/-- The failure of an evaluator that could not be reached. -/
def unavailable : Failure :=
  failure "Evaluator service is unavailable."

/-- The failure of an answer that is no JSON. -/
def notJson : Failure :=
  failure "Evaluator response was not valid JSON."

/-- The failure of an answer that is no result. -/
def invalid : Failure :=
  failure "Evaluator response was invalid."

/-- The message of a failure that the answer does not explain. -/
def unexplained : Json :=
  .text "Evaluator request failed."

/-- The text that a body is, whose octets may be laid out in another way than they came. A mark of
the order of octets at its start is no part of it. -/
def bodyText? (body : String) : Option String :=
  let octets := Text.Utf8.octets body.toList
  match Text.Encoding.detect octets, body.toList with
  | .utf8, '\ufeff' :: cs => some (String.ofList cs)
  | .utf8, _ => some body
  | e, _ => (Text.Encoding.decode? octets e).map String.ofList

/-- The value that a body holds. -/
def readBody (body : String) : Except Json.ReadFault Json :=
  match bodyText? body with
  | some text => Json.read text
  | none => .error .malformed

/-- The message in the envelope of a failure, if the value is one. -/
def messageOf (j : Json) : Json :=
  match j.get? "error" with
  | some error => (error.get? "message").getD unexplained
  | none => unexplained

/-- The fault that an answer of another status than 200 reports. -/
def reported (status : Nat) (body : String) : Fault :=
  let kind : FailureKind := if status = 400 then .parse else .remote
  match readBody body with
  | .ok j => .failure { kind, message := messageOf j }
  | .error .malformed => .failure { kind, message := unexplained }
  | .error .tooDeep => .escape .tooDeep

/-- The result that the body of an answer of status 200 holds. -/
def resultOf (body : String) : Except Fault Evaluation :=
  match readBody body with
  | .error .malformed => .error (.failure notJson)
  | .error .tooDeep => .error (.escape .tooDeep)
  | .ok j =>
    match Evaluation.ofJson? j with
    | none => .error (.failure invalid)
    | some e => .ok e

/-- The result or the fault that a delivery for a URL is. An answer must come from a host. -/
def accept (url : Web.Url) : Delivery → Except Fault Evaluation
  | .failed => .error (.failure unavailable)
  | .escaped e => .error (.escape e)
  | .response status body =>
    if !url.isAbsolute then .error (.escape (.unplaced (.bare url.text)))
    else if status = 200 then resultOf body
    else .error (reported status body)

/-! ### The client -/

/-- A client of a remote evaluator. -/
structure Client where
  baseUrl : String
  /-- How many seconds a request may take. -/
  timeout : Real64 := Real64.ofInt 5

namespace Client

/-- The failure of settings that say of no remote evaluator. -/
def notConfigured : Failure :=
  failure "EVAL_HTTP_BASE_URL is not configured."

/-- The client of the evaluator that the settings name. -/
def ofSettings (s : Settings) : Except Failure Client :=
  match s.remoteUrl with
  | some url =>
    if url.isEmpty then .error notConfigured
    else .ok { baseUrl := Text.trimRight '/' url, timeout := s.remoteTimeout }
  | none => .error notConfigured

/-- Where an expression is sent. -/
def target (c : Client) (expression : String) : Except Web.Url.Refusal Web.Url :=
  Web.Url.ofText (c.baseUrl ++ "/eval") ("query=" ++ Web.Form.encode expression)

/-- An expression evaluated elsewhere, without the blanks at its ends. One that is empty then is
not sent. -/
def evaluate {σ : Type} (c : Client) (t : Transport σ) (s : σ) (expression : String) :
    Except Fault Evaluation × σ :=
  let trimmed := Text.trim expression
  if trimmed.isEmpty then (.error (.failure Service.emptyExpression), s)
  else
    let s := t.prepare s
    match c.target trimmed with
    | .error r => (.error (.escape (.address r)), s)
    | .ok url =>
      let (delivery, s) := t.send s url
      (accept url delivery, s)

/-- The client as an evaluator. It logs nothing. -/
def evaluator {σ : Type} (c : Client) (t : Transport σ) : Evaluator σ := fun s expression =>
  let (answer, s) := c.evaluate t s expression
  ({ answer }, s)

end Client

end Remote

end PrefixCalc
