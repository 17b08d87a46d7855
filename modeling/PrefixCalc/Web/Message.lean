import PrefixCalc.Failure
import PrefixCalc.Json.Text
import PrefixCalc.Log.Record
import PrefixCalc.Text.Utf8

/-!
# Requests and responses

What a web application takes and what it gives. A part of an application that answers requests may
also log; an escape passes through it and is answered outside.

The address of a request is put together from the host that it names and its path, so that it may
be no address. Then it has no path that could be logged.

## Main definitions

* `Request`, `Response`: the messages.
* `Request.addressFault?`, `Request.addressPath`: the address of a request.
* `Reply`: a response or an escape, what is logged, and what is kept.
* `Reply.ofFailure`: how a failure is answered.
-/

namespace PrefixCalc.Web

/-- Names of headers, in small letters, with their values. -/
abbrev Headers := List (String × String)

/-- A request. -/
structure Request where
  method : String := "GET"
  /-- The name that the server goes by, for requests that name no host. -/
  server : String := "lispy.local"
  path : String
  /-- The query as it was sent. -/
  query : String := ""
  headers : Headers := []
  deriving DecidableEq, Repr

namespace Request

/-- The value of a header, of several the first. The name is given in small letters. -/
def header? (r : Request) (name : String) : Option String :=
  (r.headers.find? fun h => Text.toLower h.1 == name).map (·.2)

/-! ### Addresses -/

/-- The host that a request names, or else the server's name. -/
def host (r : Request) : String :=
  (r.header? "host").getD r.server

/-- The characters that have no place in an address, and are left out of it. -/
def isDropped (c : Char) : Bool :=
  c == '\t' || c == '\n' || c == '\r'

/-- A character that ends the authority of an address. -/
def endsAuthority (c : Char) : Bool :=
  c == '/' || c == '?' || c == '#'

/-- The address of a request behind its scheme and before its query: its path behind its host. -/
def address (r : Request) : List Char :=
  (r.host ++ r.path).toList.filter (!isDropped ·)

/-- What is wrong with the address of a request. -/
def addressFault? (r : Request) : Option Unplaced :=
  Place.fault? (r.address.takeWhile (!endsAuthority ·))

/-- The path in the address of a request, which a question mark or a number sign ends. An address
with a fault has no parts. -/
def addressPath (r : Request) : Except Unplaced String :=
  match r.addressFault? with
  | some u => .error u
  | none =>
    let path := r.address.dropWhile (!endsAuthority ·)
    .ok (String.ofList (path.takeWhile fun c => c != '?' && c != '#'))

theorem addressPath_eq_error_iff {r : Request} {u : Unplaced} :
    r.addressPath = .error u ↔ r.addressFault? = some u := by
  rw [addressPath]
  cases r.addressFault? <;> simp

theorem exists_addressPath_iff {r : Request} :
    (∃ path, r.addressPath = .ok path) ↔ r.addressFault? = none := by
  rw [addressPath]
  cases r.addressFault? <;> simp

/-! ### Queries -/

/-- The query as an application takes it, which is octet by octet. -/
def octetQuery (r : Request) : String :=
  String.ofList ((Text.Utf8.octets r.query.toList).map fun o => Char.ofNat o.toNat)

end Request

/-- A response. -/
structure Response where
  status : Nat
  headers : Headers := []
  body : String := ""
  deriving DecidableEq, Repr

namespace Response

/-- A response with more headers. -/
def withHeaders (r : Response) (more : Headers) : Response :=
  { r with headers := r.headers ++ more }

/-- A response whose body is a text. -/
def text (status : Nat) (body : String) : Response :=
  { status, headers := [("content-type", "text/plain; charset=utf-8")], body }

/-- A response whose body is JSON, if that can be written. -/
def json (status : Nat) (body : Json) : Except Unwritable Response := do
  return { status, headers := [("content-type", "application/json")], body := ← body.write }

/-- The response to a request that was stopped by an escape. -/
def internalError : Response :=
  text 500 "Internal Server Error"

end Response

/-- What a part of an application answers, what it logs, and what it keeps. -/
structure Reply where
  answer : Except Escape Response
  log : List Log.Entry := []
  /-- What the application keeps from now on. -/
  keeps : Option Json := none

namespace Reply

/-- A reply with headers on its response. -/
def withHeaders (r : Reply) (more : Headers) : Reply :=
  { r with answer := r.answer.map fun a => a.withHeaders more }

/-- A reply whose body is JSON; a body that cannot be written escapes. -/
def json (status : Nat) (body : Json) : Reply :=
  { answer := (Response.json status body).mapError .unwritable }

/-- The log of failures that are the server's own. -/
def failureLogger : String := "lispy.errors"

/-- The least status of a failure that is the server's own. -/
def serverStatus : Nat := 500

/-- The entry for a failure that is the server's own. -/
def failureEntry (path : String) (f : Failure) : Log.Entry :=
  { level := .error, logger := failureLogger, message := "request.failed"
    extra := [("error_type", .text f.kind.word), ("path", .text path)] }

/-- The reply to a request that failed: the failure's envelope, and a log entry when the failure
is the server's own. The entry names the path in the address of the request, which must have
one. -/
def ofFailure (requestId : Option String) (path : Except Unplaced String) (f : Failure) : Reply :=
  if serverStatus ≤ f.kind.status then
    match path with
    | .error u => { answer := .error (.unplaced u) }
    | .ok path => { json f.kind.status (f.envelope requestId) with log := [failureEntry path f] }
  else json f.kind.status (f.envelope requestId)

end Reply

/-- A part of an application: it is told the id of the request, if there is one. -/
abbrev Handler := Option String → Request → Reply

end PrefixCalc.Web
