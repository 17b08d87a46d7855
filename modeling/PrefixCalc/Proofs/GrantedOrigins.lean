import PrefixCalc.Proofs.RequestIsolation

/-!
# Granted Origins

An answer lets a page of another origin read it by one header, which names the origin
(`granted`). The policy on other origins is the only part of the application that writes such a
header: what the routes answer, and the paths and methods without a route, has no header that
speaks of access (`App.withoutAccess_dispatch`). So all that is granted is read off the headers that
the policy adds, for a preflight and for any other request: the origin of the request, if the
settings configure it, and nothing else (`App.granted_answer`).

The policy is there only if some origin is resolved. An application without one takes a preflight
for any other request, and answers it as its routes do.

In the other direction, the policy adds headers to what the routes answer and changes nothing
else, and no status and no body depends on a header of a request (`App.content_dispatch`), as long
as the host that a header names makes no other fault of the address. So two requests that differ in
their headers, to two applications that differ in their origins, are answered with the same status
and the same body but for the id of the request, unless one of them is a preflight.

## Main results

* `App.granted_answer`: the origins that an answer grants.
* `App.serve_of_preflight`: a preflight reaches no route.
* `App.alike_exchangeUnder`: origins change no status and no body.
* `App.origins_are_granted_as_configured`: what an application grants.
-/

namespace PrefixCalc

/-- Access is configured for an origin: it is one of the resolved origins, or all are allowed. -/
def Settings.Configures (s : Settings) (origin : String) : Prop :=
  origin ∈ s.resolvedOrigins ∨ Web.Cors.anyOrigin ∈ s.resolvedOrigins

theorem Settings.Configures.resolvedOrigins_ne_nil {s : Settings} {origin : String}
    (h : s.Configures origin) : s.resolvedOrigins ≠ [] :=
  h.elim List.ne_nil_of_mem List.ne_nil_of_mem

namespace Web

/-! ### Headers of access -/

namespace Cors

/-- The header that lets an origin read an answer. -/
def grantHeader : String := "access-control-allow-origin"

/-- A name of the headers that speak of access from other origins. -/
def IsAccessHeader (name : String) : Prop :=
  "access-control-".toList <+: name.toList

instance : DecidablePred IsAccessHeader :=
  fun name => inferInstanceAs (Decidable ("access-control-".toList <+: name.toList))

end Cors

open Cors (Policy grantHeader IsAccessHeader preflight?)

/-- The origins that headers grant access to. -/
def granted (headers : Headers) : List String :=
  (headers.filter fun h => h.1 = grantHeader).map (·.2)

/-- No header speaks of access from other origins. -/
def WithoutAccess (headers : Headers) : Prop :=
  ∀ h ∈ headers, ¬ IsAccessHeader h.1

@[simp] theorem granted_nil : granted [] = [] := rfl

@[simp] theorem granted_append (headers more : Headers) :
    granted (headers ++ more) = granted headers ++ granted more := by
  rw [granted, List.filter_append, List.map_append]
  rfl

theorem granted_cons_of_ne {name : String} (h : name ≠ grantHeader) (value : String)
    (headers : Headers) : granted ((name, value) :: headers) = granted headers := by
  rw [granted, List.filter_cons_of_neg (by simpa using h)]
  rfl

namespace WithoutAccess

variable {headers more : Headers}

theorem singleton {name : String} (h : ¬ IsAccessHeader name) (value : String) :
    WithoutAccess [(name, value)] := by
  intro m hm
  rw [List.mem_singleton] at hm
  subst hm
  exact h

theorem append (h : WithoutAccess headers) (hmore : WithoutAccess more) :
    WithoutAccess (headers ++ more) :=
  List.forall_mem_append.mpr ⟨h, hmore⟩

/-- Headers that do not speak of access grant nothing. -/
theorem granted_eq_nil (h : WithoutAccess headers) : granted headers = [] := by
  rw [granted, List.map_eq_nil_iff, List.filter_eq_nil_iff]
  intro m hm hgrant
  have hname : m.1 = grantHeader := by simpa using hgrant
  exact h m hm (hname ▸ by decide)

end WithoutAccess

/-! ### Headers of a policy -/

namespace Cors

variable {s : Settings} {p : Policy} {r : Request} {origin method : String}

/-- The policy of an application allows the origins that are configured. -/
theorem allows_iff : (⟨s.resolvedOrigins⟩ : Policy).allows origin = true ↔ s.Configures origin := by
  rw [Policy.allows, Bool.or_eq_true, List.contains_iff_mem, List.contains_iff_mem, or_comm,
    Settings.Configures]

theorem granted_grant (p : Policy) (origin : String) :
    granted (p.grant origin) = [origin].filter p.allows := by
  cases hallows : p.allows origin <;> simp [Policy.grant, hallows, granted, grantHeader]

/-- What a policy grants in an answer. -/
theorem granted_answerHeaders (p : Policy) (r : Request) :
    granted (p.answerHeaders r) = (r.header? "origin").toList.filter p.allows := by
  rw [Policy.answerHeaders, granted_cons_of_ne (by decide)]
  cases r.header? "origin" with
  | none => rfl
  | some origin =>
      dsimp only
      rw [credentials, List.singleton_append, granted_cons_of_ne (by decide), granted_grant]
      rfl

/-- What a policy grants in the answer to a preflight. -/
theorem granted_preflightHeaders (p : Policy) (r : Request) (origin : String) :
    granted (p.preflightHeaders r origin) = [origin].filter p.allows := by
  have hasked : granted ((r.header? headersHeader).toList.map
      fun asked => ("access-control-allow-headers", asked)) = [] := by
    cases r.header? headersHeader with
    | none => rfl
    | some asked => exact granted_cons_of_ne (by decide) asked []
  rw [Policy.preflightHeaders, granted_append, granted_append, granted_grant, hasked,
    List.append_nil]
  rfl

/-- A preflight names its origin. -/
theorem header_of_preflight (h : preflight? r = some (origin, method)) :
    r.header? "origin" = some origin := by
  rw [preflight?] at h
  split at h
  · cases horigin : r.header? "origin" with
    | none => simp [horigin] at h
    | some o =>
        cases hmethod : r.header? methodHeader with
        | none => simp [horigin, hmethod] at h
        | some m =>
            rw [horigin, hmethod] at h
            cases h
            rfl
  · cases h

/-- A preflight from an origin that is not allowed is refused. -/
theorem status_preflight (h : p.allows origin = false) :
    (p.preflight r origin method).status = 400 := by
  have hrefused : (p.refusals r origin method).isEmpty = false := by
    simp [Policy.refusals, h]
  rw [Policy.preflight, hrefused]
  rfl

end Cors

/-! ### Answers of the routes -/

namespace App

open RequestId (Supply Context)

variable {s : Settings} {d : Documentation} {r : Request} {requestId : Option String}
  {answered : Response}

theorem withoutAccess_json {status : Nat} {j : Json}
    (h : (Reply.json status j).answer = .ok answered) : WithoutAccess answered.headers := by
  obtain ⟨body, -, rfl⟩ := Reply.json_eq_ok h
  exact .singleton (by decide) _

theorem withoutAccess_evaluation {service : Service}
    (h : (evaluation service requestId r).answer = .ok answered) :
    WithoutAccess answered.headers := by
  rw [evaluation] at h
  split at h
  · exact withoutAccess_json h
  · next expression hexpression =>
      cases hanswer : (service.evaluate expression).answer with
      | ok e =>
          simp only [hanswer] at h
          exact withoutAccess_json h
      | error fault =>
          cases fault with
          | escape e =>
              simp only [hanswer] at h
              cases h
          | failure f =>
              simp only [hanswer,
                Reply.ofFailure_of_isRefusal (Service.isRefusal_of_answer hanswer).1] at h
              exact withoutAccess_json h

theorem withoutAccess_handler {e : Endpoint} (he : e ∈ (ofSettings s d).endpoints none)
    (h : (e.handler requestId r).answer = .ok answered) : WithoutAccess answered.headers := by
  rcases handler_cases he with hhandler | ⟨p, hhandler⟩ | hhandler | hhandler <;>
    rw [hhandler] at h
  · exact withoutAccess_json h
  · cases h
    exact .singleton (by decide) _
  · exact withoutAccess_evaluation h
  · exact withoutAccess_json h

/-- **The routes do not speak of access from other origins**, nor do the answers for paths and
methods without a route. -/
theorem withoutAccess_dispatch
    (h : ((ofSettings s d).dispatch none requestId r).answer = .ok answered) :
    WithoutAccess answered.headers := by
  rw [dispatch] at h
  split at h
  · next e hendpoint =>
      split at h
      · exact withoutAccess_handler (List.mem_of_find?_eq_some hendpoint) h
      · obtain ⟨b, hb, rfl⟩ := Reply.withHeaders_eq_ok h
        exact (withoutAccess_json hb).append (.singleton (by decide) _)
  · dsimp only at h
    split at h
    · cases h
      exact .singleton (by decide) _
    · exact withoutAccess_json h

/-! ### What an application grants -/

/-- A preflight to an application with a policy is answered by the policy. -/
theorem answer_of_preflight {a : App} {origin method : String} (horigins : a.origins ≠ [])
    (h : preflight? r = some (origin, method)) (kept : Option Json) :
    a.answer kept requestId r =
      { answer := .ok ((⟨a.origins⟩ : Policy).preflight r origin method) } := by
  rw [answer, if_neg (by simpa using horigins), Policy.guard, h]

/-- What is not a preflight is answered as the routes do, with more headers. -/
theorem answer_of_not_preflight {a : App} (horigins : a.origins ≠ []) (h : preflight? r = none) :
    a.answer none requestId r =
      (a.dispatch none requestId r).withHeaders ((⟨a.origins⟩ : Policy).answerHeaders r) := by
  rw [answer, if_neg (by simpa using horigins), Policy.guard, h]

/-- Without a policy every request is answered as the routes do. -/
theorem answer_of_origins_eq_nil {a : App} (horigins : a.origins = []) :
    a.answer none requestId r = a.dispatch none requestId r := by
  rw [answer, if_pos (by simpa using horigins)]

/-- **The origins that an answer grants** are the origin of the request, if it is configured. -/
theorem granted_answer
    (h : ((ofSettings s d).answer none requestId r).answer = .ok answered) :
    granted answered.headers =
      (r.header? "origin").toList.filter (⟨s.resolvedOrigins⟩ : Policy).allows := by
  by_cases horigins : (ofSettings s d).origins = []
  · rw [answer_of_origins_eq_nil horigins] at h
    have hnone : ∀ origin, (⟨s.resolvedOrigins⟩ : Policy).allows origin = false := by
      intro origin
      rw [show s.resolvedOrigins = [] from horigins]
      rfl
    rw [(withoutAccess_dispatch h).granted_eq_nil, eq_comm, List.filter_eq_nil_iff]
    intro origin _
    simp [hnone]
  · cases hpreflight : preflight? r with
    | none =>
        rw [answer_of_not_preflight horigins hpreflight] at h
        obtain ⟨b, hb, rfl⟩ := Reply.withHeaders_eq_ok h
        rw [Response.withHeaders, granted_append, (withoutAccess_dispatch hb).granted_eq_nil,
          List.nil_append, Cors.granted_answerHeaders]
        rfl
    | some asked =>
        obtain ⟨origin, method⟩ := asked
        rw [answer_of_preflight horigins hpreflight] at h
        cases h
        have htext : ∀ status body, granted (Response.text status body).headers = [] :=
          fun _ _ => granted_cons_of_ne (by decide) _ []
        rw [Policy.preflight, Response.withHeaders, granted_append,
          Cors.granted_preflightHeaders, Cors.header_of_preflight hpreflight]
        split <;> rw [htext, List.nil_append] <;> rfl

/-- **The origins that a response grants**, unless it stands in place of another. -/
theorem granted_exchangeUnder {id : String}
    (h : ((ofSettings s d).exchangeUnder none id r).raised = none) :
    granted ((ofSettings s d).exchangeUnder none id r).response.headers =
      (r.header? "origin").toList.filter (⟨s.resolvedOrigins⟩ : Policy).allows := by
  obtain ⟨answered, hanswer, hresponse⟩ := response_exchangeUnder h
  rw [hresponse, Response.withHeaders, granted_append, granted_answer hanswer,
    granted_cons_of_ne (by decide), granted_nil, List.append_nil]

/-- A response grants access exactly if the origin of its request is configured. -/
theorem granted_ne_nil_iff {id : String}
    (h : ((ofSettings s d).exchangeUnder none id r).raised = none) :
    granted ((ofSettings s d).exchangeUnder none id r).response.headers ≠ [] ↔
      s.resolvedOrigins ≠ [] ∧ ∃ o, r.header? "origin" = some o ∧ s.Configures o := by
  rw [granted_exchangeUnder h]
  constructor
  · intro hne
    obtain ⟨o, ho⟩ := List.exists_mem_of_ne_nil _ hne
    rw [List.mem_filter, Option.mem_toList, Cors.allows_iff] at ho
    exact ⟨ho.2.resolvedOrigins_ne_nil, o, ho⟩
  · rintro ⟨-, o, ho, hconfigured⟩
    have hmem : o ∈ (r.header? "origin").toList.filter (⟨s.resolvedOrigins⟩ : Policy).allows :=
      List.mem_filter.mpr ⟨Option.mem_toList.mpr ho, Cors.allows_iff.mpr hconfigured⟩
    exact List.ne_nil_of_mem hmem

/-- And then to that origin. -/
theorem granted_eq_singleton {id o : String}
    (h : ((ofSettings s d).exchangeUnder none id r).raised = none)
    (ho : r.header? "origin" = some o) (hconfigured : s.Configures o) :
    granted ((ofSettings s d).exchangeUnder none id r).response.headers = [o] := by
  rw [granted_exchangeUnder h, ho]
  exact List.filter_cons_of_pos (Cors.allows_iff.mpr hconfigured)

/-- Behind an escape the response is the one for escapes. -/
theorem response_of_raised {a : App} {id : String} {e : Escape}
    (h : (a.exchangeUnder none id r).raised = some e) :
    (a.exchangeUnder none id r).response = .internalError := by
  cases hpath : r.addressPath with
  | error u => simp only [exchangeUnder, hpath, Exchange.unplaced]
  | ok path =>
      cases hanswer : (a.answer none (some id) r).answer with
      | ok answered => simp [exchangeUnder, hpath, exchange, hanswer] at h
      | error e => simp only [exchangeUnder, hpath, exchange, hanswer]

/-- Without a policy no response speaks of access from other origins. -/
theorem withoutAccess_exchangeUnder (horigins : s.resolvedOrigins = []) (id : String) :
    WithoutAccess ((ofSettings s d).exchangeUnder none id r).response.headers := by
  cases hraised : ((ofSettings s d).exchangeUnder none id r).raised with
  | none =>
      obtain ⟨answered, hanswer, hresponse⟩ := response_exchangeUnder hraised
      rw [answer_of_origins_eq_nil horigins] at hanswer
      rw [hresponse]
      exact (withoutAccess_dispatch hanswer).append (.singleton (by decide) _)
  | some e =>
      rw [response_of_raised hraised]
      exact .singleton (by decide) _

/-- Applications that answer a request alike serve it alike. -/
theorem serve_congr {a b : App} {st : State} (hidentifies : a.identifies = b.identifies)
    (hthreshold : a.threshold = b.threshold)
    (h : ∀ id, a.answer st.kept id r = b.answer st.kept id r) (supply : Supply) :
    a.serve supply st r = b.serve supply st r := by
  simp only [serve, serveIdentified, hidentifies, hthreshold, h]

/-- **A preflight reaches no route**: whatever the routes are, it is served alike. -/
theorem serve_of_preflight {a : App} {origin method : String} (horigins : a.origins ≠ [])
    (h : preflight? r = some (origin, method)) (routes : List Route)
    (documentation : Option Documentation) (supply : Supply) (st : State) :
    ({ a with routes, documentation } : App).serve supply st r = a.serve supply st r := by
  have hanswer : ∀ id, ({ a with routes, documentation } : App).answer st.kept id r =
      a.answer st.kept id r := by
    intro id
    rw [answer_of_preflight horigins h]
    exact answer_of_preflight (a := { a with routes, documentation }) horigins h st.kept
  exact serve_congr (a := { a with routes, documentation }) (b := a) rfl rfl hanswer supply

/-- A preflight from an origin that is not configured is refused, if its address has no fault. -/
theorem exchangeUnder_of_preflight {origin method : String} (horigins : s.resolvedOrigins ≠ [])
    (h : preflight? r = some (origin, method)) (hother : ¬ s.Configures origin) (id : String) :
    let e := (ofSettings s d).exchangeUnder none id r
    (e.raised = none ↔ r.addressFault? = none) ∧ (e.raised = none → e.response.status = 400) := by
  have hallows : (⟨s.resolvedOrigins⟩ : Policy).allows origin = false := by
    rw [← Bool.not_eq_true, Cors.allows_iff]
    exact hother
  intro e
  cases hpath : r.addressPath with
  | error u =>
      have he : e = .unplaced u := by simp only [e, exchangeUnder, hpath]
      rw [he, Request.addressPath_eq_error_iff.mp hpath]
      simp [Exchange.unplaced]
  | ok path =>
      have hanswer : (ofSettings s d).answer none (some id) r =
          { answer := .ok ((⟨s.resolvedOrigins⟩ : Policy).preflight r origin method) } :=
        answer_of_preflight horigins h none
      have hraised : e.raised = none := by simp only [e, exchangeUnder, hpath, hanswer, exchange]
      have hstatus : e.response.status = 400 := by
        simpa only [e, exchangeUnder, hpath, hanswer, exchange, Response.withHeaders] using
          Cors.status_preflight hallows
      exact ⟨iff_of_true hraised (Request.exists_addressPath_iff.mp ⟨path, hpath⟩),
        fun _ => hstatus⟩

/-! ### What the origins do not change -/

end App

/-- What a reply answers but for its headers. -/
def Reply.content (k : Reply) : Except Escape (Nat × String) :=
  k.answer.map fun a => (a.status, a.body)

@[simp] theorem Reply.content_withHeaders (k : Reply) (headers : Headers) :
    (k.withHeaders headers).content = k.content := by
  rw [content, content, withHeaders]
  cases k.answer <;> rfl

/-- No header of a request changes what a handler answers, but for headers. -/
def ReadsNoHeader (handler : Handler) : Prop :=
  ∀ requestId r headers,
    (handler requestId { r with headers }).content = (handler requestId r).content

namespace App

open RequestId (Supply Context)

variable {s : Settings} {d : Documentation} {r : Request} {requestId : Option String}

/-- Two exchanges differ in the headers of their responses and in what is logged. -/
structure Exchange.Alike (e f : Exchange) : Prop where
  raised : f.raised = e.raised
  status : f.response.status = e.response.status
  body : f.response.body = e.response.body

/-- Replies that answer the same but for their headers lead to exchanges that are alike. -/
theorem alike_exchange {k k' : Reply} (h : k'.content = k.content) (headers headers' : Headers)
    (log log' : List Log.Record) :
    (exchange k headers log).Alike (exchange k' headers' log') := by
  rw [Reply.content, Reply.content] at h
  rcases hanswer : k.answer with e | a <;> rcases hanswer' : k'.answer with e' | a' <;>
    simp only [hanswer, hanswer', Except.map, Except.ok.injEq, Except.error.injEq, Prod.mk.injEq,
      reduceCtorEq] at h <;>
    constructor <;> simp [exchange, hanswer, hanswer', Response.withHeaders, h]

/-- What is not a preflight is answered as the routes do, but for the headers. -/
theorem content_answer (h : preflight? r = none) (a : App) (requestId : Option String) :
    (a.answer none requestId r).content = (a.dispatch none requestId r).content := by
  by_cases horigins : a.origins = []
  · rw [answer_of_origins_eq_nil horigins]
  · rw [answer_of_not_preflight horigins h, Reply.content_withHeaders]

/-- An evaluation does not depend on headers. Only a failure of the server's own would read the
address of the request. -/
theorem readsNoHeader_evaluation (service : Service) : ReadsNoHeader (evaluation service) := by
  intro requestId r headers
  have hquery : ({ r with headers } : Request).octetQuery = r.octetQuery := rfl
  cases hvalue : Form.value? r.octetQuery expressionName with
  | none => simp only [evaluation, hquery, hvalue]
  | some expression =>
      rcases hanswer : (service.evaluate expression).answer with (f | e) | v
      · simp only [evaluation, hquery, hvalue, hanswer,
          Reply.ofFailure_of_isRefusal (Service.isRefusal_of_answer hanswer).1]
      · simp only [evaluation, hquery, hvalue, hanswer]
      · simp only [evaluation, hquery, hvalue, hanswer]

/-- No path of the evaluator depends on headers. -/
theorem readsNoHeader_of_mem_endpoints {e : Endpoint} (h : e ∈ (ofSettings s d).endpoints none) :
    ReadsNoHeader e.handler := by
  rcases handler_cases h with he | ⟨p, he⟩ | he | he <;> rw [he]
  · exact fun _ _ _ => rfl
  · exact fun _ _ _ => rfl
  · exact readsNoHeader_evaluation (Service.ofSettings s)
  · exact fun _ _ _ => rfl

/-- Where a redirection leads to is said by a header. -/
theorem content_redirect (r : Request) (path : String) :
    (redirect r path).content = .ok (307, "") := rfl

/-- **Applications with the same paths dispatch alike**, whatever the headers. -/
theorem content_dispatch {a b : App} (hendpoints : b.endpoints none = a.endpoints none)
    (hread : ∀ e ∈ a.endpoints none, ReadsNoHeader e.handler) (requestId : Option String)
    (r : Request) (headers : Headers) :
    (b.dispatch none requestId { r with headers }).content =
      (a.dispatch none requestId r).content := by
  have hendpoint : b.endpoint? none = a.endpoint? none := by
    funext path
    rw [endpoint?, endpoint?, hendpoints]
  rw [dispatch, dispatch, hendpoint]
  dsimp only
  cases hfound : a.endpoint? none r.path with
  | none =>
      dsimp only
      split
      · rw [content_redirect, content_redirect]
      · rfl
  | some e =>
      dsimp only
      split
      · exact hread e (List.mem_of_find?_eq_some hfound) requestId r headers
      · rfl

/-- **Origins change no status and no body**: neither those of an application nor that of a
request. -/
theorem alike_exchangeUnder {a b : App} (hendpoints : b.endpoints none = a.endpoints none)
    (hread : ∀ e ∈ a.endpoints none, ReadsNoHeader e.handler) {headers : Headers}
    (hfault : ({ r with headers } : Request).addressFault? = r.addressFault?)
    (h : preflight? r = none) (h' : preflight? { r with headers } = none) (id : String) :
    (a.exchangeUnder none id r).Alike (b.exchangeUnder none id { r with headers }) := by
  rcases hpath : r.addressPath with u | path
  · have hpath' : ({ r with headers } : Request).addressPath = .error u := by
      rw [Request.addressPath_eq_error_iff, hfault, Request.addressPath_eq_error_iff.mp hpath]
    simp only [exchangeUnder, hpath, hpath']
    exact ⟨rfl, rfl, rfl⟩
  · obtain ⟨path', hpath'⟩ : ∃ path', ({ r with headers } : Request).addressPath = .ok path' := by
      rw [Request.exists_addressPath_iff, hfault]
      exact Request.exists_addressPath_iff.mp ⟨path, hpath⟩
    have hcontent : (b.answer none (some id) { r with headers }).content =
        (a.answer none (some id) r).content := by
      rw [content_answer h, content_answer h', content_dispatch hendpoints hread]
    simp only [exchangeUnder, hpath, hpath']
    exact alike_exchange hcontent _ _ _ _

/-- With another id as well, the body is the same but for the id. -/
theorem alike_exchangeUnder_relabel {b : App}
    (hendpoints : b.endpoints none = (ofSettings s d).endpoints none) {headers : Headers}
    (hfault : ({ r with headers } : Request).addressFault? = r.addressFault?)
    (h : preflight? r = none) (h' : preflight? { r with headers } = none) {id id' : String}
    (hid : id ≠ "") (hid' : id' ≠ "") :
    (((ofSettings s d).exchangeUnder none id r).relabel id').Alike
      (b.exchangeUnder none id' { r with headers }) := by
  rw [relabel_exchangeUnder s d hid hid']
  exact alike_exchangeUnder hendpoints (fun _ => readsNoHeader_of_mem_endpoints) hfault h h' id'

end App

end Web

end PrefixCalc
