import PrefixCalc.RequestId
import PrefixCalc.Service
import PrefixCalc.Settings.Basic
import PrefixCalc.Web.Cors
import PrefixCalc.Web.Documentation
import PrefixCalc.Web.Form
import PrefixCalc.Web.Url

/-!
# The web application

An application has routes, each a path with a handler for `GET`, and its documentation has more.
Around them stands the policy on other origins, if any origins are allowed, and around that the
layer that gives every request an id: it logs the start and the end of the request, and the response
carries the id.

A request becomes the current one before the layer looks at its address. So a request whose address
has a fault is neither logged nor ever left: its id stays the current one.

## Main definitions

* `App`: an application; `App.State`: what it holds between requests.
* `App.ofSettings`: the evaluator as an application.
* `App.dispatch`: a request on its way to a handler.
* `App.serve`: a request served, with what is logged and what escaped.
-/

namespace PrefixCalc.Web

/-- A web application. -/
structure App where
  title : String := ""
  version : String := ""
  /-- Its documentation shows the title and the version; it may have none. -/
  documentation : Option Documentation := none
  routes : List Route
  /-- The other origins that may read answers; without any there is no policy. -/
  origins : List String := []
  /-- Requests get an id. -/
  identifies : Bool := true
  /-- The least rank of the log entries that are kept. -/
  threshold : Log.Threshold := Log.Level.info.rank

/-! ### Routes -/

/-- The name of the expression in a query. -/
def expressionName : String := "query"

/-- The body that says that a query holds no expression. -/
def missingExpression : Json :=
  .object [("detail", .array [.object [
    ("type", .text "missing"), ("loc", .array [.text "query", .text expressionName]),
    ("msg", .text "Field required"), ("input", .null)]])]

/-- Answers with the result of evaluating the expression in the query. -/
def evaluation (s : Service) : Handler := fun requestId r =>
  match Form.value? r.octetQuery expressionName with
  | none => Reply.json 422 missingExpression
  | some expression =>
    let outcome := s.evaluate expression
    let reply :=
      match outcome.answer with
      | .ok e => Reply.json 200 e.toJson
      | .error (.failure f) => Reply.ofFailure requestId r.addressPath f
      | .error (.escape e) => { answer := .error e }
    { reply with log := outcome.log ++ reply.log }

/-- Answers that the application is there. -/
def health : Handler := fun _ _ =>
  Reply.json 200 (.object [("status", .text "ok")])

/-! ### Dispatch -/

/-- A body with one detail. -/
def detail (text : String) : Json :=
  .object [("detail", .text text)]

/-- The answer for a path without route. -/
def notFound : Reply :=
  Reply.json 404 (detail "Not Found")

/-- The answer for a method that a path is not asked for by. -/
def methodNotAllowed (methods : List String) : Reply :=
  (Reply.json 405 (detail "Method Not Allowed")).withHeaders
    [("allow", Json.joined ", " methods)]

/-- The characters that may stand in the location of a redirection. -/
def isLocationChar (c : Char) : Bool :=
  Form.isUnreserved c || ":/%#?=@[]!$&'()*+,;".toList.contains c

/-- The answer that sends a request on to a path without slash at its end. -/
def redirect (r : Request) (path : String) : Reply :=
  let url : Url := { origin := "http://" ++ r.host, path, query := r.query }
  { answer := .ok { status := 307, headers := [
      ("location", String.ofList (Percent.quote isLocationChar url.text.toList))] } }

namespace App

/-- The description of an application: the one that it keeps, or else a new one. -/
def described (a : App) (kept : Option Json) (d : Documentation) : Json :=
  kept.getD (d.describe a.title a.version)

/-- The paths of an application, when it keeps a description or none. -/
def endpoints (a : App) (kept : Option Json) : List Endpoint :=
  (a.documentation.elim [] fun d => d.endpoints a.title (a.described kept d)) ++
    a.routes.map fun route => { route with methods := ["GET"] }

/-- What answers a path. -/
def endpoint? (a : App) (kept : Option Json) (path : String) : Option Endpoint :=
  (a.endpoints kept).find? (·.accepts path)

/-- A request on its way to the handler of its path. A path with slashes at its end is sent on to
the path without them, if something answers that. -/
def dispatch (a : App) (kept : Option Json) : Handler := fun requestId r =>
  match a.endpoint? kept r.path with
  | some e =>
    if r.method ∈ e.methods then e.handler requestId r else methodNotAllowed e.methods
  | none =>
    let stripped := Text.trimRight '/' r.path
    if stripped != r.path && (a.endpoint? kept stripped).isSome then redirect r stripped
    else notFound

/-- A request under the policy on other origins. -/
def answer (a : App) (kept : Option Json) : Handler :=
  if a.origins.isEmpty then a.dispatch kept
  else Cors.Policy.guard ⟨a.origins⟩ (a.dispatch kept)

/-! ### Serving -/

/-- The header that carries the id of a request. -/
def idHeader : String := "x-request-id"

/-- The log of the requests. -/
def requestLogger : String := "lispy.request"

/-- The entry for the start or the end of a request. Besides its path and its method, the entry for
the end says how many milliseconds the request took; that is left out here. -/
def requestEntry (message path method : String) : Log.Entry :=
  { level := .info, logger := requestLogger, message
    extra := [("path", .text path), ("method", .text method)] }

/-- What an application holds between requests. -/
structure State where
  /-- The current id. -/
  ids : RequestId.Context := {}
  /-- The description that is kept. -/
  kept : Option Json := none

/-- What serving a request led to. -/
structure Exchange where
  response : Response
  log : List Log.Record
  /-- What escaped, if the response is there in place of another. -/
  raised : Option Escape := none

/-- The exchange for a reply, with headers that only an answer carries. -/
def exchange (reply : Reply) (headers : Headers) (log : List Log.Record) : Exchange :=
  match reply.answer with
  | .ok response => { response := response.withHeaders headers, log }
  | .error e => { response := .internalError, log, raised := some e }

/-- The exchange for a request whose address has a fault. -/
def Exchange.unplaced (u : Unplaced) : Exchange :=
  { response := .internalError, log := [], raised := some (.unplaced u) }

/-- A request served while its id is the current one. -/
def serveIdentified (supply : RequestId.Supply) (a : App) (s : State) (r : Request) :
    Exchange × State :=
  let entered := s.ids.enter supply (r.header? idHeader)
  match r.addressPath with
  | .error u => (.unplaced u, { s with ids := entered })
  | .ok path =>
    let reply := a.answer s.kept entered.current r
    let entries :=
      requestEntry "request.start" path r.method :: reply.log ++
        [requestEntry "request.end" path r.method]
    (exchange reply [(idHeader, entered.current.getD "")]
      (Log.keep a.threshold entered.current entries),
      { ids := (entered.leave s.ids.receipts.length).getD entered
        kept := reply.keeps.or s.kept })

/-- A request served. -/
def serve (supply : RequestId.Supply) (a : App) (s : State) (r : Request) : Exchange × State :=
  if a.identifies then a.serveIdentified supply s r
  else
    let reply := a.answer s.kept s.ids.current r
    (exchange reply [] (Log.keep a.threshold s.ids.current reply.log),
      { s with kept := reply.keeps.or s.kept })

/-- Requests served one after the other. -/
def serveAll (supply : RequestId.Supply) (a : App) :
    State → List Request → List Exchange × State
  | s, [] => ([], s)
  | s, r :: rs =>
    let (e, s) := a.serve supply s r
    let (es, s) := serveAll supply a s rs
    (e :: es, s)

/-- The evaluator as an application. -/
def ofSettings (s : Settings) (documentation : Documentation := .blank) : App where
  title := s.apiTitle
  version := s.apiVersion
  documentation := some documentation
  routes := [⟨"/eval", evaluation (Service.ofSettings s)⟩, ⟨"/health", health⟩]
  origins := s.resolvedOrigins

end App

end PrefixCalc.Web
