import PrefixCalc.Remote.Client
import PrefixCalc.Web.App

/-!
# Transports

Two ways for the requests of a client to be answered without a network: from a list of answers
that was written before, and by a web application in the same process.

## Main definitions

* `Remote.Script`: answers that were written before.
* `Remote.inProcess`: a web application as a transport.
-/

namespace PrefixCalc.Remote

/-- What happens on the way to an answer. -/
inductive Event where
  | prepared
  | sent (url : Web.Url)
  deriving DecidableEq, Repr

/-- Answers that were written before, and what happened. -/
structure Script where
  pending : List Delivery
  events : List Event := []

namespace Script

/-- A request is made ready for. -/
def prepare (s : Script) : Script :=
  { s with events := s.events ++ [.prepared] }

/-- Each request takes the next answer; when there is none left, it fails. -/
def send (s : Script) (url : Web.Url) : Delivery × Script :=
  let events := s.events ++ [.sent url]
  match s.pending with
  | [] => (.failed, { s with events })
  | d :: ds => (d, { pending := ds, events })

/-- Answers that were written before, as a transport. -/
def transport : Transport Script where
  prepare := prepare
  send := send

end Script

/-- A request for a URL. It names no host, so that the server's name stands in its address. -/
def requestFor (url : Web.Url) : Web.Request where
  path := String.ofList (Web.Percent.decode url.path.toList)
  query := url.query

/-- The delivery that an exchange is for the client. -/
def deliver (e : Web.App.Exchange) : Delivery :=
  match e.raised with
  | some escape => .escaped escape
  | none => .response e.response.status e.response.body

/-- The state of an application in the same process, and where the requests went. -/
structure Calls where
  state : Web.App.State := {}
  sent : List Web.Url := []

/-- A web application as a transport. -/
def inProcess (supply : RequestId.Supply) (app : Web.App) : Transport Calls where
  prepare := id
  send := fun s url =>
    let (e, state) := app.serve supply s.state (requestFor url)
    (deliver e, { state, sent := s.sent ++ [url] })

end PrefixCalc.Remote
