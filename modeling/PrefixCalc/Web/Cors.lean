import PrefixCalc.Web.Message

/-!
# Access from other origins

A browser lets a page of another origin read an answer only if the answer says so, and asks first,
by a preflight, before it sends a request out of the ordinary. A policy names the origins that may
read; it decorates every answer, and it answers preflights itself.

## Main definitions

* `Cors.Policy`: the allowed origins.
* `Cors.Policy.preflight`: the answer to a preflight.
* `Cors.Policy.guard`: a handler under a policy.
-/

namespace PrefixCalc.Web.Cors

/-- The origins that may read answers. -/
structure Policy where
  origins : List String
  deriving DecidableEq, Repr

/-- Stands for all origins. -/
def anyOrigin : String := "*"

/-- An origin may read answers. -/
def Policy.allows (p : Policy) (origin : String) : Bool :=
  p.origins.contains anyOrigin || p.origins.contains origin

/-- The header that lets an allowed origin read an answer. -/
def Policy.grant (p : Policy) (origin : String) : Headers :=
  if p.allows origin then [("access-control-allow-origin", origin)] else []

/-- Credentials may be sent along. -/
def credentials : Headers :=
  [("access-control-allow-credentials", "true")]

/-! ### Preflights -/

/-- The methods that a preflight may ask for. -/
def methods : List String :=
  ["DELETE", "GET", "HEAD", "OPTIONS", "PATCH", "POST", "PUT", "QUERY"]

/-- The header in which a preflight asks for a method. -/
def methodHeader : String := "access-control-request-method"

/-- The header in which a preflight asks for headers. -/
def headersHeader : String := "access-control-request-headers"

/-- The header in which a preflight asks for access to a private network. -/
def networkHeader : String := "access-control-request-private-network"

/-- What a request asks for when it is a preflight: its origin and its method. -/
def preflight? (r : Request) : Option (String × String) :=
  if r.method = "OPTIONS" then do
    return (← r.header? "origin", ← r.header? methodHeader)
  else none

/-- The parts of a preflight that are refused. -/
def Policy.refusals (p : Policy) (r : Request) (origin method : String) : List String :=
  (if p.allows origin then [] else ["origin"]) ++
    (if methods.contains method then [] else ["method"]) ++
    (if (r.header? networkHeader).isSome then ["private-network"] else [])

/-- The headers of the answer to a preflight. -/
def Policy.preflightHeaders (p : Policy) (r : Request) (origin : String) : Headers :=
  [("vary", "Origin, Access-Control-Request-Method, Access-Control-Request-Headers, " ++
      "Access-Control-Request-Private-Network"),
    ("access-control-allow-methods", Json.joined ", " methods),
    ("access-control-max-age", "600")] ++ credentials ++ p.grant origin ++
    (r.header? headersHeader).toList.map fun asked => ("access-control-allow-headers", asked)

/-- The answer to a preflight: all that was asked for, or what of it is refused. -/
def Policy.preflight (p : Policy) (r : Request) (origin method : String) : Response :=
  let refused := p.refusals r origin method
  let response :=
    if refused.isEmpty then Response.text 200 "OK"
    else Response.text 400 ("Disallowed CORS " ++ Json.joined ", " refused)
  response.withHeaders (p.preflightHeaders r origin)

/-! ### Other requests -/

/-- The headers that a policy adds to an answer. -/
def Policy.answerHeaders (p : Policy) (r : Request) : Headers :=
  ("vary", "Origin") ::
    match r.header? "origin" with
    | some origin => credentials ++ p.grant origin
    | none => []

/-- A handler under a policy. A preflight does not reach it. -/
def Policy.guard (p : Policy) (handler : Handler) : Handler := fun requestId r =>
  match preflight? r with
  | some (origin, method) => { answer := .ok (p.preflight r origin method) }
  | none => (handler requestId r).withHeaders (p.answerHeaders r)

end PrefixCalc.Web.Cors
