import PrefixCalc.Proofs.Deliveries

/-!
# The Route of Evaluations Shows What the Service Answers

A `GET` request to the route of evaluations may hold any query. The query is taken apart into
names and values, and the last value of one name is the expression; without the name the request is
refused. With an expression the response is a faithful image of the answer of the service
(`Web.App.Exchange.Shows`): a result reads back from the body member by member, a refused text comes
as the envelope of its failure, and the one escape of the service passes through the application.

An envelope has details exactly when the text came to the reader and the reader refused it
(`Service.ReaderRefuses`); a text that is empty or too long does not come to the reader.

## Main results

* `Web.Form.value_eq_some_iff`: the expression is the last value of its name.
* `Service.details_of_answer`: when a failure of the service has details.
* `Web.App.shows_of_value`: the response to a request with an expression.
* `Web.App.route_shows_service`: the response to any query.
-/

namespace PrefixCalc

/-! ### Values of a name in a query -/

namespace Web.Form

variable {query name value : String}

theorem value_eq_none_iff : value? query name = none ↔ ∀ p ∈ pairs query, p.1 ≠ name := by
  rw [value?, List.lookup_eq_none_iff]
  simp only [List.mem_reverse, bne_iff_ne, ne_comm]

/-- The value of a name is the last that is given to it. -/
theorem value_eq_some_iff :
    value? query name = some value ↔
      ∃ before behind, pairs query = before ++ (name, value) :: behind ∧
        ∀ p ∈ behind, p.1 ≠ name := by
  rw [value?, List.lookup_eq_some_iff]
  constructor
  · rintro ⟨later, earlier, hpairs, hlater⟩
    refine ⟨earlier.reverse, later.reverse, ?_, ?_⟩
    · rw [← List.reverse_reverse (pairs query), hpairs]
      simp
    · intro p hp
      exact (bne_iff_ne.mp (hlater p (List.mem_reverse.mp hp))).symm
  · rintro ⟨before, behind, hpairs, hbehind⟩
    refine ⟨behind.reverse, before.reverse, ?_, ?_⟩
    · rw [hpairs]
      simp
    · intro p hp
      exact bne_iff_ne.mpr (hbehind p (List.mem_reverse.mp hp)).symm

end Web.Form

/-! ### Answers of the service -/

namespace Service

variable {s : Service} {text : String}

/-- The text is neither empty nor too long, and the reader refuses it. -/
structure ReaderRefuses (s : Service) (text : String) (e : ReadError) : Prop where
  full : (Text.trim text).isEmpty = false
  short : (Text.trim text).length ≤ s.limit
  refused : Tree.parse (Text.trim text) = .error e

/-- The details of a failure in reading. -/
theorem details_of_read {f : Failure} (h : s.read text = .error (.failure f)) :
    (f.details = [] ∧ ∀ e, ¬ s.ReaderRefuses text e) ∨
      ∃ e, s.ReaderRefuses text e ∧ f = .ofReadError source e := by
  rw [read] at h
  by_cases hempty : (Text.trim text).isEmpty = true
  · rw [if_pos hempty] at h
    cases h
    refine .inl ⟨rfl, fun e he => ?_⟩
    rw [he.full] at hempty
    cases hempty
  · rw [if_neg hempty] at h
    by_cases hlong : s.limit < (Text.trim text).length
    · rw [if_pos hlong] at h
      cases hwrite : Decimal.write s.limit with
      | error u =>
          rw [hwrite] at h
          cases h
      | ok limit =>
          rw [hwrite] at h
          cases h
          exact .inl ⟨rfl, fun e he => Int.not_lt.mpr he.short hlong⟩
    · rw [if_neg hlong] at h
      cases hparse : Tree.parse (Text.trim text) with
      | ok t =>
          rw [hparse] at h
          cases h
      | error e =>
          rw [hparse] at h
          cases h
          exact .inr ⟨e, ⟨by simpa using hempty, Int.not_lt.mp hlong, hparse⟩, rfl⟩

/-- **The details of a failure** are the column of the reader, if the reader refused the text, and
there are none for a text that does not come to the reader. -/
theorem details_of_answer {f : Failure} (h : (s.evaluate text).answer = .error (.failure f)) :
    (f.details = [] ∧ ∀ e, ¬ s.ReaderRefuses text e) ∨
      ∃ e, s.ReaderRefuses text e ∧ f = .ofReadError source e := by
  rcases evaluate_cases s text with ⟨g, hread, heq⟩ | ⟨t, v, -, heq⟩
  · rw [heq] at h
    cases h
    exact details_of_read hread
  · rw [heq] at h
    cases hvalue : Evaluation.ofValue text v <;> rw [hvalue] at h <;> cases h

end Service

/-! ### Details in an envelope -/

/-- An envelope has the details of its failure, if there are any. -/
theorem Failure.member_details (f : Failure) (requestId : Option String) :
    Json.member? (f.report ++ trace requestId) "details" =
      if f.details.isEmpty then none else some (.object f.details) := by
  rcases trace_cases requestId with htrace | ⟨id, htrace⟩ <;> rw [htrace, report] <;> split <;> rfl

/-- **An envelope has details exactly when the reader refused the text**, and they are its
column. -/
theorem Service.member_details_iff {s : Service} {text : String} {f : Failure}
    (h : (s.evaluate text).answer = .error (.failure f)) (requestId : Option String)
    (details : Json) :
    Json.member? (f.report ++ Failure.trace requestId) "details" = some details ↔
      ∃ e, s.ReaderRefuses text e ∧ details = .object [("column", .int e.column)] := by
  rw [f.member_details]
  rcases details_of_answer h with ⟨hnone, hreader⟩ | ⟨e, he, rfl⟩
  · simp only [hnone, List.isEmpty_nil, if_true]
    constructor
    · intro hmember
      cases hmember
    · rintro ⟨e, he, -⟩
      exact absurd he (hreader e)
  · constructor
    · intro hmember
      cases hmember
      exact ⟨e, he, rfl⟩
    · rintro ⟨e', he', rfl⟩
      cases he.refused.symm.trans he'.refused
      rfl

namespace Web.App

variable {s : Settings} {d : Documentation} {supply : RequestId.Supply} {st : State} {r : Request}

/-! ### Responses of the route -/

/-- The exchange for a request for an evaluation is that for the reply of the service, with more
headers and a log. -/
theorem exists_serve_of_get (s : Settings) (d : Documentation) (supply : RequestId.Supply)
    (st : State) (hmethod : r.method = "GET") (hpath : r.path = "/eval")
    (hplaced : r.addressFault? = none) :
    ∃ headers more log, ((ofSettings s d).serve supply st r).1 =
      exchange
        ((evaluation (Service.ofSettings s) (some (idOf supply st.ids.taken r)) r).withHeaders
          headers)
        more log := by
  obtain ⟨hexchange, -⟩ := serve_eq (a := ofSettings s d) rfl supply st r
  obtain ⟨headers, hanswer⟩ := answer_of_get s d hmethod hpath
  obtain ⟨path, haddress⟩ := Request.exists_addressPath_iff.mpr hplaced
  simp only [hexchange, exchangeUnder, haddress, hanswer]
  exact ⟨headers, _, _, rfl⟩

theorem response_of_reply (hmethod : r.method = "GET") (hpath : r.path = "/eval")
    (hplaced : r.addressFault? = none) {a : Response}
    (h : (evaluation (Service.ofSettings s) (some (idOf supply st.ids.taken r)) r).answer =
      .ok a) :
    let served := ((ofSettings s d).serve supply st r).1
    served.raised = none ∧ served.response.status = a.status ∧ served.response.body = a.body := by
  intro served
  obtain ⟨headers, more, log, hserved⟩ :=
    exists_serve_of_get s d supply st hmethod hpath hplaced
  rw [show served = _ from hserved, Reply.withHeaders, exchange, h]
  exact ⟨rfl, rfl, rfl⟩

/-- An escape of the service passes through the application. -/
theorem response_of_escape (hmethod : r.method = "GET") (hpath : r.path = "/eval")
    (hplaced : r.addressFault? = none) {e : Escape}
    (h : (evaluation (Service.ofSettings s) (some (idOf supply st.ids.taken r)) r).answer =
      .error e) :
    let served := ((ofSettings s d).serve supply st r).1
    served.raised = some e ∧ served.response = .internalError := by
  intro served
  obtain ⟨headers, more, log, hserved⟩ :=
    exists_serve_of_get s d supply st hmethod hpath hplaced
  rw [show served = _ from hserved, Reply.withHeaders, exchange, h]
  exact ⟨rfl, rfl⟩

/-- An exchange shows what a service answers to a text. -/
structure Exchange.Shows (x : Exchange) (service : Service) (text : String) : Prop where
  /-- A result reads back from the body, member by member. -/
  result : ∀ e, (service.evaluate text).answer = .ok e →
    x.raised = none ∧ x.response.status = 200 ∧ e.expression = text ∧
      ∃ j, Json.read x.response.body = .ok j ∧
        j.get? "expression" = some (.text e.expression) ∧
        j.get? "output" = some (.text e.output) ∧
        j.get? "value" = some (e.value.elim .null .int) ∧
        j.get? "error" = some (e.error.elim .null fun k => .text k.name) ∧
        Evaluation.ofJson? j = some e
  /-- A refused text comes as the envelope of its failure, unless its length, and so the column in
  the failure, has too many digits to be written. -/
  refusal : ∀ f, (service.evaluate text).answer = .error (.failure f) →
    f.kind = .parse ∧
      ((x.raised = none ∧ x.response.status = 400 ∧
          ∃ j envelope, Json.read x.response.body = .ok j ∧
            j.get? "error" = some (.object envelope) ∧
            Json.member? envelope "type" = some (.text "PARSE_ERROR") ∧
            Json.member? envelope "message" = some f.message ∧
            ∀ details, Json.member? envelope "details" = some details ↔
              ∃ e, service.ReaderRefuses text e ∧
                details = .object [("column", .int e.column)]) ∨
        (x.raised = some (.unwritable .tooManyDigits) ∧ x.response.status = 500 ∧
          10 ^ Decimal.maxDigits ≤ (Text.trim text).length + 1))
  /-- The escape of a number that cannot be written passes through. -/
  escape : ∀ e, (service.evaluate text).answer = .error (.escape e) →
    e = .unwritable .tooManyDigits ∧ x.raised = some e ∧ x.response.status = 500

theorem reply_of_value {text : String} (id : Option String)
    (hvalue : Form.value? r.octetQuery expressionName = some text) (service : Service) :
    (evaluation service id r).answer =
      match (service.evaluate text).answer with
      | .ok e => (Reply.json 200 e.toJson).answer
      | .error (.failure f) => (Reply.json f.kind.status (f.envelope id)).answer
      | .error (.escape e) => .error e := by
  simp only [evaluation, hvalue]
  cases hanswer : (service.evaluate text).answer with
  | ok e => rfl
  | error fault =>
      cases fault with
      | failure f =>
          simp only [Reply.ofFailure_of_isRefusal (Service.isRefusal_of_answer hanswer).1]
      | escape e => rfl

/-- **The response to a request with an expression** shows what the service answers. -/
theorem shows_of_value (hmethod : r.method = "GET") (hpath : r.path = "/eval")
    (hplaced : r.addressFault? = none) {text : String}
    (hvalue : Form.value? r.octetQuery expressionName = some text) :
    ((ofSettings s d).serve supply st r).1.Shows (Service.ofSettings s) text where
  result := by
    intro e he
    obtain ⟨body, hbody⟩ := Evaluation.exists_write_toJson (Service.exists_write_of_answer he)
    have hreply := reply_of_value (some (idOf supply st.ids.taken r)) hvalue
      (Service.ofSettings s)
    simp only [he, Reply.json_of_ok hbody] at hreply
    obtain ⟨hraised, hstatus, hsame⟩ := response_of_reply (d := d) hmethod hpath hplaced hreply
    refine ⟨hraised, hstatus, Service.expression_of_answer he, e.toJson, ?_, rfl, rfl, rfl, rfl,
      e.ofJson_toJson⟩
    rw [hsame]
    exact Json.read_write (plain_toJson e) hbody
  refusal := by
    intro f hf
    obtain ⟨hrefusal, -⟩ := Service.isRefusal_of_answer hf
    refine ⟨hrefusal.kind, ?_⟩
    have hreply := reply_of_value (some (idOf supply st.ids.taken r)) hvalue
      (Service.ofSettings s)
    rcases Service.envelope_of_answer hf with hwritten | ⟨hlong, hunwritten⟩
    · obtain ⟨body, hbody⟩ := hwritten (some (idOf supply st.ids.taken r))
      simp only [hf, Reply.json_of_ok hbody] at hreply
      obtain ⟨hraised, hstatus, hsame⟩ := response_of_reply (d := d) hmethod hpath hplaced hreply
      have hread := Json.read_write (hrefusal.plain_envelope _) hbody
      rw [f.envelope_eq] at hread
      refine .inl ⟨hraised, ?_, _, _, (congrArg Json.read hsame).trans hread, rfl, ?_,
        f.member_message _, Service.member_details_iff hf _⟩
      · rw [hstatus, hrefusal.kind]
        rfl
      · have hword : "PARSE_ERROR" = f.kind.word := by rw [hrefusal.kind]; rfl
        rw [hword]
        rfl
    · simp only [hf, Reply.json_of_error (hunwritten _)] at hreply
      obtain ⟨hraised, hresponse⟩ := response_of_escape (d := d) hmethod hpath hplaced hreply
      exact .inr ⟨hraised, by rw [hresponse]; rfl, hlong⟩
  escape := by
    intro e he
    have hreply := reply_of_value (some (idOf supply st.ids.taken r)) hvalue
      (Service.ofSettings s)
    simp only [he] at hreply
    obtain ⟨hraised, hresponse⟩ := response_of_escape (d := d) hmethod hpath hplaced hreply
    exact ⟨Service.escape_of_answer he, hraised, by rw [hresponse]; rfl⟩

/-- A request without an expression is refused. -/
theorem status_of_no_value (hmethod : r.method = "GET") (hpath : r.path = "/eval")
    (hplaced : r.addressFault? = none)
    (hvalue : Form.value? r.octetQuery expressionName = none) :
    let served := ((ofSettings s d).serve supply st r).1
    served.raised = none ∧ served.response.status = 422 := by
  have hreply : (evaluation (Service.ofSettings s) (some (idOf supply st.ids.taken r)) r).answer =
      (Reply.json 422 missingExpression).answer := by
    simp only [evaluation, hvalue]
  obtain ⟨hraised, hstatus, -⟩ := response_of_reply (d := d) hmethod hpath hplaced hreply
  exact ⟨hraised, hstatus⟩

/-- An exchange that shows an answer has one of three statuses, and the last only with the escape
of a number that cannot be written. -/
theorem Exchange.Shows.status {x : Exchange} {service : Service} {text : String}
    (h : x.Shows service text) :
    x.response.status = 200 ∨ x.response.status = 400 ∨
      (x.response.status = 500 ∧ x.raised = some (.unwritable .tooManyDigits)) := by
  cases hanswer : (service.evaluate text).answer with
  | ok e => exact .inl (h.result e hanswer).2.1
  | error fault =>
      cases fault with
      | failure f =>
          rcases (h.refusal f hanswer).2 with ⟨-, hstatus, -⟩ | ⟨hraised, hstatus, -⟩
          · exact .inr (.inl hstatus)
          · exact .inr (.inr ⟨hstatus, hraised⟩)
      | escape e =>
          obtain ⟨rfl, hraised, hstatus⟩ := h.escape e hanswer
          exact .inr (.inr ⟨hstatus, hraised⟩)

/-- **The route of evaluations shows what the service answers**, for all queries, whatever the
application has served before. Of a query, only the last value of the name of the expression counts,
and a query without that name is the one that is refused. The host that the request names must be
one that can be read. -/
theorem route_shows_service (s : Settings) (d : Documentation) (supply : RequestId.Supply)
    (st : State) (r : Request) (hmethod : r.method = "GET") (hpath : r.path = "/eval")
    (hplaced : r.addressFault? = none) :
    let served := ((ofSettings s d).serve supply st r).1
    (served.response.status = 422 ↔ ∀ p ∈ Form.pairs r.octetQuery, p.1 ≠ "query") ∧
      (∀ before q behind, Form.pairs r.octetQuery = before ++ ("query", q) :: behind →
        (∀ p ∈ behind, p.1 ≠ "query") → served.Shows (Service.ofSettings s) q) ∧
      (served.response.status = 422 ∨ served.response.status = 200 ∨
        served.response.status = 400 ∨
        (served.response.status = 500 ∧
          served.raised = some (.unwritable .tooManyDigits))) := by
  intro served
  have hshows : ∀ q, Form.value? r.octetQuery "query" = some q →
      served.Shows (Service.ofSettings s) q := fun q hq => shows_of_value hmethod hpath hplaced hq
  refine ⟨⟨?_, ?_⟩, ?_, ?_⟩
  · intro hstatus
    rw [← Form.value_eq_none_iff, ← Option.not_isSome_iff_eq_none]
    intro hsome
    obtain ⟨q, hq⟩ := Option.isSome_iff_exists.mp hsome
    rcases (hshows q hq).status with h | h | ⟨h, -⟩ <;> rw [hstatus] at h <;> cases h
  · intro hnone
    exact (status_of_no_value hmethod hpath hplaced (Form.value_eq_none_iff.mpr hnone)).2
  · intro before q behind hpairs hbehind
    exact hshows q (Form.value_eq_some_iff.mpr ⟨before, behind, hpairs, hbehind⟩)
  · cases hvalue : Form.value? r.octetQuery "query" with
    | none => exact .inl (status_of_no_value hmethod hpath hplaced hvalue).2
    | some q => exact .inr (hshows q hvalue).status

/-- Of two expressions the last is evaluated, here to an error, which is a result. -/
theorem route_shows_last_of_two :
    let r : Request := { path := "/eval", query := "query=%28&query=%2F+1+0&quer=2" }
    let served := ((ofSettings {}).serve RequestId.Supply.tally {} r).1
    r.method = "GET" ∧ r.path = "/eval" ∧ r.addressFault? = none ∧
      Form.pairs r.octetQuery = [("query", "("), ("query", "/ 1 0"), ("quer", "2")] ∧
      served.response.status = 200 ∧
      ∃ j, Json.read served.response.body = .ok j ∧
        Evaluation.ofJson? j =
          some
            { expression := "/ 1 0", output := "Error: Division by Zero!"
              error := some .divisionByZero } := by
  intro r served
  have hpairs : Form.pairs r.octetQuery = [("query", "("), ("query", "/ 1 0"), ("quer", "2")] := by
    decide
  have hplaced : r.addressFault? = none := by decide
  obtain ⟨-, hlast, -⟩ :=
    route_shows_service {} .blank RequestId.Supply.tally {} r rfl rfl hplaced
  have hshows : served.Shows (Service.ofSettings {}) "/ 1 0" :=
    hlast [("query", "(")] "/ 1 0" [("quer", "2")] hpairs (by decide)
  obtain ⟨-, hstatus, -, j, hread, -, -, -, -, hresult⟩ := hshows.result _ rfl
  exact ⟨rfl, rfl, hplaced, hpairs, hstatus, j, hread, hresult⟩

end Web.App

end PrefixCalc
