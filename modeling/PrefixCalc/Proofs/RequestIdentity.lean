import Mathlib.Data.List.Basic
import PrefixCalc.Proofs.KeptDescription
import PrefixCalc.Proofs.RequestAddresses

/-!
# Every Request Has One Id

While a request is served, one id is the current one: the one that the request offers, or a new
one. The response carries it, all that is logged carries it, and so does the envelope of a
failure; and behind the request the id from before is current again, also when an escape ended
it. All this fails for a request whose address has a fault: it ends behind the place where its id
became the current one, and before anything is logged.

What serving a request leads to is a function of the request, its id and what is kept
(`App.exchangeUnder`), and `App.serve_eq` says how one request changes the ids. From this step
follows what a row of requests leads to: the request at each place gets the exchange under its id,
where the number of new ids is that of the requests before it that offered none
(`App.serve_serveAll`).

## Main results

* `App.serve_eq`, `App.serveAll_getElem`, `App.serve_serveAll`: one request, and a row of requests.
* `App.trace_of_answer`: an envelope names the request.
* `App.requests_keep_identity`: the id of each request of a row, wherever it shows.
-/

namespace PrefixCalc

/-! ### Records -/

/-- A member that was put into an object is there. -/
theorem Json.member_put (members : List (String × Json)) (name : String) (value : Json) :
    member? (put members name value) name = some value := by
  rw [member?, put]
  split
  · next hany =>
    induction members with
    | nil => exact absurd hany (by simp)
    | cons m ms ih =>
        by_cases hm : m.1 = name
        · simp [hm]
        · have hrest : (ms.any fun m => m.1 == name) = true := by simpa [hm] using hany
          have hne : (name == m.1) = false := by simpa using Ne.symm hm
          rw [List.map_cons, if_neg (by simpa using hm), List.lookup_cons, hne]
          exact ih hrest
  · next hany =>
    have hnone : members.lookup name = none := by
      rw [List.lookup_eq_none_iff]
      intro m hm
      simp only [List.any_eq_true, beq_iff_eq, not_exists, not_and] at hany
      exact bne_iff_ne.mpr (Ne.symm (hany m hm))
    rw [List.lookup_append, hnone]
    simp

namespace Log

theorem keep_append (threshold : Threshold) (requestId : Option String) (xs ys : List Entry) :
    keep threshold requestId (xs ++ ys) =
      keep threshold requestId xs ++ keep threshold requestId ys := by
  simp [keep]

/-- A record is an entry with the id. -/
theorem mem_keep {threshold : Threshold} {requestId : Option String} {entries : List Entry}
    {x : Record} (h : x ∈ keep threshold requestId entries) :
    x.requestId = requestId ∧ x.toEntry ∈ entries := by
  obtain ⟨e, he, rfl⟩ := List.mem_map.mp h
  exact ⟨rfl, List.mem_of_mem_filter he⟩

/-- A record shows the id that it has. -/
theorem Record.member_requestId {x : Record} {id : String} (h : x.requestId = some id)
    (hid : id ≠ "") : Json.member? x.fields "request_id" = some (.text id) := by
  rw [fields, Json.member_put, h, shownId, if_neg (by simpa using hid)]

end Log

/-! ### The context of one request -/

/-- New ids with one more stroke each. -/
def RequestId.Supply.tally : Supply := fun n => String.ofList (List.replicate (n + 1) 'i')

theorem RequestId.Supply.tally_ne_empty (n : Nat) : tally n ≠ "" := by
  intro hempty
  have hlength := congrArg String.length hempty
  simp [tally] at hlength

namespace RequestId.Context

variable (supply : Supply) (c : Context) (offer : Option String)

/-- The id that becomes current: the offered one, or a new one. -/
theorem current_enter :
    (c.enter supply offer).current = some ((offered? offer).getD (supply c.taken)) := by
  cases h : offered? offer <;> simp [enter, h]

theorem taken_enter :
    (c.enter supply offer).taken = c.taken + if (offered? offer).isNone then 1 else 0 := by
  cases h : offered? offer <;> simp [enter, h]

/-- The receipt of the last entrance serves. -/
theorem exists_leave_enter :
    ∃ c', (c.enter supply offer).leave c.receipts.length = some c' ∧ c'.current = c.current ∧
      c'.taken = (c.enter supply offer).taken := by
  cases h : offered? offer <;> simp [enter, leave, h]

end RequestId.Context

namespace Web.App

open RequestId (Supply Context offered?)

/-! ### One request -/

/-- The id of a request before which some new ids have been taken. -/
def idOf (supply : Supply) (taken : Nat) (r : Request) : String :=
  (offered? (r.header? idHeader)).getD (supply taken)

/-- No request is served under an empty id. -/
theorem idOf_ne_empty {supply : Supply} (hsupply : ∀ n, supply n ≠ "") (taken : Nat)
    (r : Request) : idOf supply taken r ≠ "" := by
  rw [idOf]
  cases hoffer : offered? (r.header? idHeader) with
  | none => exact hsupply taken
  | some offer =>
      have hfull : (!offer.isEmpty) = true := (Option.filter_eq_some_iff.mp hoffer).2
      simpa using hfull

/-- The request offers no id. -/
def isUnnamed (r : Request) : Bool :=
  (offered? (r.header? idHeader)).isNone

/-- What serving a request under an id leads to. -/
def exchangeUnder (a : App) (kept : Option Json) (id : String) (r : Request) : Exchange :=
  match r.addressPath with
  | .error u => .unplaced u
  | .ok path =>
    let reply := a.answer kept (some id) r
    let entries :=
      requestEntry "request.start" path r.method :: reply.log ++
        [requestEntry "request.end" path r.method]
    exchange reply [(idHeader, id)] (Log.keep a.threshold (some id) entries)

/-- The id that is current behind a request: the one from before, unless the address of the request
has a fault. Then the request is never left. -/
def currentBehind (before : Option String) (id : String) (r : Request) : Option String :=
  if r.addressFault? = none then before else some id

variable {a : App}

theorem exchangeUnder_of_keepsOwn {kept : Option Json} (h : a.KeepsOwn kept) (id : String)
    (r : Request) : a.exchangeUnder kept id r = a.exchangeUnder none id r := by
  rw [exchangeUnder, exchangeUnder, answer_of_keepsOwn h]

/-- **One request**: its exchange, the id that is current behind it, and the number of new ids. -/
theorem serve_eq (h : a.identifies = true) (supply : Supply) (s : State) (r : Request) :
    (a.serve supply s r).1 = a.exchangeUnder s.kept (idOf supply s.ids.taken r) r ∧
      (a.serve supply s r).2.ids.current =
        currentBehind s.ids.current (idOf supply s.ids.taken r) r ∧
      (a.serve supply s r).2.ids.taken = s.ids.taken + if isUnnamed r then 1 else 0 := by
  have hcurrent := s.ids.current_enter supply (r.header? idHeader)
  have htaken := s.ids.taken_enter supply (r.header? idHeader)
  rw [serve, if_pos h, serveIdentified, exchangeUnder, currentBehind]
  cases hpath : r.addressPath with
  | error u =>
      rw [if_neg (by simp [Request.addressPath_eq_error_iff.mp hpath])]
      exact ⟨rfl, hcurrent, htaken⟩
  | ok path =>
      obtain ⟨c, hleave, hbefore, hcount⟩ := s.ids.exists_leave_enter supply (r.header? idHeader)
      rw [if_pos (Request.exists_addressPath_iff.mp ⟨path, hpath⟩)]
      simp only [hleave, hcurrent]
      exact ⟨rfl, hbefore, hcount.trans htaken⟩

/-! ### Requests one after the other -/

/-- How many of the requests offer no id. -/
def unnamed (rs : List Request) : Nat :=
  rs.countP isUnnamed

/-- **Behind a row of requests** as many new ids are taken as requests offered none. -/
theorem serveAll_taken (h : a.identifies = true) (supply : Supply) (s : State)
    (rs : List Request) :
    (a.serveAll supply s rs).2.ids.taken = s.ids.taken + unnamed rs := by
  induction rs generalizing s with
  | nil => rfl
  | cons r rs ih =>
      obtain ⟨-, -, htaken⟩ := serve_eq h supply s r
      rw [serveAll, ih, htaken, unnamed, unnamed, List.countP_cons]
      omega

/-- **Behind a row of requests** whose addresses have no faults the id from before is current. -/
theorem serveAll_current (h : a.identifies = true) (supply : Supply) (s : State)
    {rs : List Request} (hrs : ∀ r ∈ rs, r.addressFault? = none) :
    (a.serveAll supply s rs).2.ids.current = s.ids.current := by
  induction rs generalizing s with
  | nil => rfl
  | cons r rs ih =>
      obtain ⟨-, hcurrent, -⟩ := serve_eq h supply s r
      rw [List.forall_mem_cons] at hrs
      rw [currentBehind, if_pos hrs.1] at hcurrent
      rw [serveAll, ih _ hrs.2, hcurrent]

theorem length_serveAll (supply : Supply) (s : State) (rs : List Request) :
    (a.serveAll supply s rs).1.length = rs.length := by
  induction rs generalizing s with
  | nil => rfl
  | cons r rs ih => rw [serveAll, List.length_cons, ih, List.length_cons]

/-- **A row of requests**: each is served in the state behind those before it. -/
theorem serveAll_getElem (supply : Supply) (s : State) {rs : List Request} {i : Nat} {r : Request}
    (hr : rs[i]? = some r) :
    (a.serveAll supply s rs).1[i]? =
      some (a.serve supply (a.serveAll supply s (rs.take i)).2 r).1 := by
  induction rs generalizing s i with
  | nil => exact absurd hr (by simp)
  | cons q rs ih =>
      rw [serveAll]
      cases i with
      | zero =>
          rw [List.getElem?_cons_zero, Option.some.injEq] at hr
          subst hr
          rfl
      | succ i =>
          rw [List.getElem?_cons_succ] at hr
          rw [List.getElem?_cons_succ, ih _ hr, List.take_succ_cons, serveAll]

/-- **One request behind others**: its exchange is the one under its id, whatever is kept. -/
theorem serve_serveAll (s : Settings) (d : Documentation) (supply : Supply) (c : Context)
    (earlier : List Request) (r : Request) :
    let app := ofSettings s d
    let before := (app.serveAll supply { ids := c } earlier).2
    (app.serve supply before r).1 = app.exchangeUnder none (idOf supply before.ids.taken r) r := by
  intro app before
  have hkept : app.KeepsOwn before.kept := keepsOwn_serveAll (keepsOwn_none _) earlier
  rw [(serve_eq rfl supply before r).1, exchangeUnder_of_keepsOwn hkept]

/-! ### Where the id shows -/

variable {s : Settings} {d : Documentation} {r : Request} {requestId : Option String}
  {path : String} {answered : Response}

/-- Around the routes no header is named like the one that carries the id. -/
theorem unlabelled_of_answer
    (h : ((ofSettings s d).answer none requestId r).answer = .ok answered) :
    Unlabelled answered.headers := by
  cases replies_answer s d r with
  | constant k hk hreply =>
      rw [hreply] at h
      exact hk.headers _ h
  | refusal f hf headers hheaders hreply =>
      rw [hreply] at h
      obtain ⟨b, hb, rfl⟩ := Reply.withHeaders_eq_ok h
      obtain ⟨body, -, rfl⟩ := Reply.json_eq_ok hb
      exact Unlabelled.append (.singleton (by decide) _) hheaders

/-- **An envelope names the request.** -/
theorem trace_of_answer {id : String} (hid : id ≠ "")
    (h : ((ofSettings s d).answer none (some id) r).answer = .ok answered) {j : Json}
    (hread : Json.read answered.body = .ok j) {members : List (String × Json)}
    (herror : j.get? "error" = some (.object members)) :
    Json.member? members "traceId" = some (.text id) := by
  cases replies_answer s d r with
  | constant k hk hreply =>
      rw [hreply] at h
      exact absurd ⟨j, members, hread, herror⟩ (hk.body _ h)
  | refusal f hf headers hheaders hreply =>
      rw [hreply] at h
      obtain ⟨b, hb, rfl⟩ := Reply.withHeaders_eq_ok h
      obtain ⟨body, hbody, rfl⟩ := Reply.json_eq_ok hb
      have hback : Json.read body = .ok (f.envelope (some id)) :=
        Json.read_write (hf.plain_envelope _) hbody
      obtain rfl : f.envelope (some id) = j := by
        rw [← Except.ok.injEq, ← hback]
        exact hread
      rw [f.envelope_eq] at herror
      cases herror
      exact f.member_trace hid

/-- Around the routes no entry is like those that the request is logged by. -/
theorem entries_of_answer {x : Log.Entry}
    (h : x ∈ ((ofSettings s d).answer none requestId r).log) :
    x.message ≠ "request.start" ∧ x.message ≠ "request.end" := by
  cases replies_answer s d r with
  | constant k hk hreply =>
      rw [hreply] at h
      exact hk.entries x h
  | refusal f hf headers hheaders hreply =>
      rw [hreply] at h
      exact absurd h (by simp [Reply.withHeaders, Reply.json])

theorem log_exchange (reply : Reply) (headers : Headers) (log : List Log.Record) :
    (exchange reply headers log).log = log := by
  rw [exchange]
  split <;> rfl

/-- What is logged of a request whose address has a path: its start, what its handling logs, and
its end. -/
theorem log_exchangeUnder (s : Settings) (d : Documentation) (id : String)
    (hpath : r.addressPath = .ok path) :
    ((ofSettings s d).exchangeUnder none id r).log =
      { requestEntry "request.start" path r.method with requestId := some id } ::
        Log.keep (ofSettings s d).threshold (some id)
          ((ofSettings s d).answer none (some id) r).log ++
          [{ requestEntry "request.end" path r.method with requestId := some id }] := by
  have hkept : ∀ message, Log.keep (ofSettings s d).threshold (some id)
      [requestEntry message path r.method] =
      [{ requestEntry message path r.method with requestId := some id }] := by
    intro message
    simp [Log.keep, ofSettings, requestEntry, Log.Level.rank]
  simp only [exchangeUnder, hpath]
  rw [log_exchange, ← List.singleton_append, List.append_assoc, Log.keep_append, Log.keep_append,
    hkept, hkept, List.singleton_append, List.cons_append]

/-- Without an escape the response is the answer of the routes with the id. -/
theorem response_exchangeUnder {id : String}
    (h : ((ofSettings s d).exchangeUnder none id r).raised = none) :
    ∃ answered, ((ofSettings s d).answer none (some id) r).answer = .ok answered ∧
      ((ofSettings s d).exchangeUnder none id r).response =
        answered.withHeaders [(idHeader, id)] := by
  cases hpath : r.addressPath with
  | error u =>
      simp only [exchangeUnder, hpath] at h
      cases h
  | ok path =>
      cases hanswer : ((ofSettings s d).answer none (some id) r).answer with
      | ok answered => exact ⟨answered, rfl, by simp only [exchangeUnder, hpath, exchange, hanswer]⟩
      | error e =>
          simp only [exchangeUnder, hpath, exchange, hanswer] at h
          cases h

/-- An exchange shows the id of its request wherever it speaks of the request. -/
structure Exchange.Identifies (e : Exchange) (path method id : String) : Prop where
  /-- Without an escape, one header of the response carries the id. -/
  header : e.raised = none →
    e.response.headers.filter (fun h => h.1 = "x-request-id") = [("x-request-id", id)]
  /-- Without an escape, a body that is the envelope of a failure names it. -/
  trace : e.raised = none → ∀ j members, Json.read e.response.body = .ok j →
    j.get? "error" = some (.object members) → Json.member? members "traceId" = some (.text id)
  /-- All records show it. -/
  records : ∀ x ∈ e.log,
    x.requestId = some id ∧ Json.member? x.fields "request_id" = some (.text id)
  /-- The first record is that of the request's start, the last that of its end, and there is no
  other of either. -/
  bounds : ∃ inner,
    e.log =
      { level := .info, logger := "lispy.request", message := "request.start"
        extra := [("path", .text path), ("method", .text method)], requestId := some id } ::
      inner ++
      [{ level := .info, logger := "lispy.request", message := "request.end"
         extra := [("path", .text path), ("method", .text method)], requestId := some id }] ∧
      ∀ x ∈ inner, x.message ≠ "request.start" ∧ x.message ≠ "request.end"

/-- **One request shows its id**, if its address has a path. -/
theorem identifies_exchangeUnder (s : Settings) (d : Documentation) {id : String} (hid : id ≠ "")
    (hpath : r.addressPath = .ok path) :
    ((ofSettings s d).exchangeUnder none id r).Identifies path r.method id where
  header := by
    intro hraised
    obtain ⟨answered, hanswer, hresponse⟩ := response_exchangeUnder hraised
    have hnone : answered.headers.filter (fun h => h.1 = "x-request-id") = [] := by
      rw [List.filter_eq_nil_iff]
      intro h hh
      simpa [idHeader] using unlabelled_of_answer hanswer h hh
    rw [hresponse, Response.withHeaders, List.filter_append, hnone]
    rfl
  trace := by
    intro hraised j members hread herror
    obtain ⟨answered, hanswer, hresponse⟩ := response_exchangeUnder hraised
    rw [hresponse] at hread
    exact trace_of_answer hid hanswer hread herror
  records := by
    intro x hx
    have hrecord : x.requestId = some id := by
      simp only [exchangeUnder, hpath, log_exchange] at hx
      exact (Log.mem_keep hx).1
    exact ⟨hrecord, x.member_requestId hrecord hid⟩
  bounds := by
    refine ⟨_, log_exchangeUnder s d id hpath, ?_⟩
    intro x hx
    exact entries_of_answer (Log.mem_keep hx).2

end Web.App

end PrefixCalc
