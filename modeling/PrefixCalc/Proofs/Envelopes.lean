import PrefixCalc.Proofs.RemoteAgreement

/-!
# Envelopes Arrive at Clients

A failure is answered with an envelope, and a client that receives the answer fails with the same
message. Between the two stand the text of the envelope, in which the message is escaped, and a
reader that knows nothing of envelopes; `Remote.reported_envelope` puts them together. What else an
envelope says is read and not looked at. So the details may be any JSON, and need not come back as
they were. All that is asked of them is that a floating-point number has 53 bits at most, as every
number has that is read from a text (`Json.inFormat_of_read`).

An envelope has a text unless its details have none, and a failure of the server's own is logged
with the path of the request before it is answered. So a failure with details that cannot be
written, among them broken texts, is not answered, and neither is a failure of the server's own in a
request whose address has a fault (`Failure.exists_answer_iff`).

## Main results

* `Failure.exists_answer_iff`: which failures are answered.
* `Remote.Client.envelopes_arrive`: what a client fails with that is told of a failure.
-/

namespace PrefixCalc

/-! ### Texts of envelopes -/

namespace Failure

variable {f : Failure}

/-- **A failure is answered when its details can be written**, two containers deep. The path is only
looked at for a failure of the server's own. -/
theorem exists_answer_iff {message : String} (hmessage : f.message = .text message)
    (requestId : Option String) (path : Except Web.Unplaced String) :
    (∃ response, (Web.Reply.ofFailure requestId path f).answer = .ok response) ↔
      (f.kind.status < 500 ∨ ∃ p, path = .ok p) ∧
        (f.details = [] ∨ (Json.object f.details).Fits (Json.maxNesting - 2)) := by
  rw [← exists_write_envelope_iff hmessage requestId]
  constructor
  · rintro ⟨response, h⟩
    obtain ⟨hpath, hanswer⟩ := Web.Reply.ofFailure_eq_ok_iff.mp h
    obtain ⟨body, hbody, -⟩ := Web.Reply.json_eq_ok hanswer
    exact ⟨hpath, body, hbody⟩
  · rintro ⟨hpath, body, hbody⟩
    have hanswer := congrArg Web.Reply.answer (Web.Reply.json_of_ok hbody f.kind.status)
    exact ⟨_, Web.Reply.ofFailure_eq_ok_iff.mpr ⟨hpath, hanswer⟩⟩

/-- A failure with a broken text in its details is not answered. -/
theorem exists_answer_eq_error {message : String} (hmessage : f.message = .text message)
    {points : List Nat} (h : .broken points ∈ (Json.object f.details).tokens)
    (requestId : Option String) (path : Except Web.Unplaced String) :
    ∃ e, (Web.Reply.ofFailure requestId path f).answer = .error e := by
  cases hanswer : (Web.Reply.ofFailure requestId path f).answer with
  | error e => exact ⟨e, rfl⟩
  | ok response =>
      obtain ⟨-, hnone | hfits⟩ := (exists_answer_iff hmessage requestId path).mp ⟨_, hanswer⟩
      · rw [hnone] at h
        simp [Json.tokens] at h
      · exact absurd hfits (Json.not_fits_of_broken h)

/-- The floating-point numbers in an envelope are those in the message and the details. -/
theorem inFormat_envelope (hmessage : f.message.InFormat)
    (hdetails : (Json.object f.details).InFormat) (requestId : Option String) :
    (f.envelope requestId).InFormat := by
  rw [f.envelope_eq]
  refine .object (List.forall_mem_singleton.mpr (.object ?_))
  exact (forall_mem_envelope_iff .text requestId).mpr ⟨hmessage, .inr hdetails⟩

end Failure

namespace Remote

/-- A client receives a response for a text: there is an expression in the text, it has a URL, the
URL names a host, and the response is brought for it. A response to a URL without a host stops the
call before the client has it. -/
structure Client.Receives {σ : Type} (c : Client) (t : Transport σ) (s : σ) (text : String)
    (response : Web.Response) : Prop where
  full : (Text.trim text).isEmpty = false
  delivered : ∃ url, c.target (Text.trim text) = .ok url ∧ url.isAbsolute = true ∧
    (t.send (t.prepare s) url).1 = .response response.status response.body

/-- A client is told of a failure: it receives the response that the failure is answered with, in
a request with any path and any id or none. -/
def Client.IsTold {σ : Type} (c : Client) (t : Transport σ) (s : σ) (text : String) (f : Failure) :
    Prop :=
  ∃ requestId path response, (Web.Reply.ofFailure requestId path f).answer = .ok response ∧
    c.Receives t s text response

namespace Client

variable {σ : Type} {c : Client} {t : Transport σ} {s : σ} {text : String} {f : Failure}

/-- A client that is told of a failure fails with the message. -/
theorem evaluate_of_isTold (hformat : f.message.InFormat)
    (hdetails : (Json.object f.details).InFormat) (h : c.IsTold t s text f) :
    (c.evaluate t s text).1 = .error (.failure {
      kind := if f.kind.status = 400 then .parse else .remote, message := f.message.reread }) := by
  obtain ⟨requestId, path, response, hanswer, hfull, url, hurl, habsolute, hdelivered⟩ := h
  obtain ⟨body, hbody, rfl⟩ := Web.Reply.json_eq_ok (Web.Reply.ofFailure_eq_ok_iff.mp hanswer).2
  have hstatus : f.kind.status ≠ 200 := by
    cases f.kind <;> decide
  have hreported := reported_envelope (Failure.inFormat_envelope hformat hdetails requestId) hbody
    f.kind.status
  rw [evaluate_of_sent hfull hurl, hdelivered]
  simp only [accept, habsolute, Bool.not_true, Bool.false_eq_true, if_false, if_neg hstatus,
    hreported]

/-- **A failure arrives with its message.** It is answered if its details can be written, two
containers deep, or if there are none, and if it is not the server's own or the address of the
request has a path. In particular, no broken text is among the details of a failure that is
answered. A client that is told of it fails with the same message, as a refused text does if the
failure is answered with status 400, and as a remote evaluator does otherwise. Neither the details
nor the id of the request nor the word for the kind makes a difference to that. -/
theorem envelopes_arrive {message : String} (hmessage : f.message = .text message)
    (hdetails : (Json.object f.details).InFormat) :
    (∀ requestId path,
      (∃ response, (Web.Reply.ofFailure requestId path f).answer = .ok response) ↔
        (f.kind.status < 500 ∨ ∃ p, path = .ok p) ∧
          (f.details = [] ∨ (Json.object f.details).Fits (Json.maxNesting - 2))) ∧
    (∀ points, .broken points ∈ (Json.object f.details).tokens → ∀ requestId path,
      ∃ e, (Web.Reply.ofFailure requestId path f).answer = .error e) ∧
    ∀ {σ : Type} (c : Client) (t : Transport σ) (s : σ) (text : String), c.IsTold t s text f →
      (c.evaluate t s text).1 = .error (.failure
        (.ofText (if f.kind.status = 400 then .parse else .remote) message)) ∧
      ∀ {τ : Type} (c' : Client) (t' : Transport τ) (s' : τ) (text' : String) (g : Failure),
        g.message = f.message → (g.kind.status = 400 ↔ f.kind.status = 400) →
        (Json.object g.details).InFormat → c'.IsTold t' s' text' g →
          (c'.evaluate t' s' text').1 = (c.evaluate t s text).1 := by
  have htext : f.message.InFormat := hmessage ▸ .text message
  refine ⟨Failure.exists_answer_iff hmessage,
    fun points => Failure.exists_answer_eq_error hmessage, fun c t s text h => ?_⟩
  have hanswer := evaluate_of_isTold htext hdetails h
  constructor
  · rw [hanswer, hmessage, Json.reread]
    rfl
  · intro τ c' t' s' text' g hsame hkind hdetails' h'
    rw [evaluate_of_isTold (hsame ▸ htext) hdetails' h', hanswer, hsame]
    simp only [hkind]

/-- A malformed tree, with details and under an id, and a failure of a further evaluator without
either. -/
theorem envelopes_arrive_of_two :
    let message := "né \"1\"\n"
    let share := Json.real (.finite false 1 (-1))
    let f : Failure := .ofText .malformedTree message [("operator", .text "+"), ("share", share)]
    let g : Failure := .ofText .remote message
    let body := "\x7b\"error\":\x7b\"type\":\"MALFORMED_TREE\",\"message\":\"né \\\"1\\\"\\n\"," ++
      "\"details\":\x7b\"operator\":\"+\",\"share\":0.5\x7d,\"traceId\":\"r-1\"\x7d\x7d"
    let body' := "\x7b\"error\":\x7b\"type\":\"EVALUATOR_HTTP_ERROR\"," ++
      "\"message\":\"né \\\"1\\\"\\n\"\x7d\x7d"
    let client : Client := { baseUrl := "http://h" }
    let told : Script := { pending := [.response 500 body] }
    let told' : Script := { pending := [.response 502 body'] }
    (Json.object f.details).InFormat ∧ (Json.object g.details).InFormat ∧
      (Json.object f.details).Fits (Json.maxNesting - 2) ∧
      client.IsTold Script.transport told "+ 1 2" f ∧
      client.IsTold Script.transport told' "+ 1 2" g ∧
      (client.evaluate Script.transport told "+ 1 2").1 =
        .error (.failure (.ofText .remote message)) ∧
      (client.evaluate Script.transport told' "+ 1 2").1 =
        (client.evaluate Script.transport told "+ 1 2").1 := by
  intro message share f g body body' client told told'
  have hfull : (Text.trim "+ 1 2").isEmpty = false := by decide
  have hurl : client.target (Text.trim "+ 1 2") =
      .ok { origin := "http://h", path := "/eval", query := "query=%2B+1+2" } := by decide
  have hshare : Real64.InFormat (.finite false 1 (-1)) := by
    change 1 < Real64.coefficientBound
    decide
  have hdetails : (Json.object f.details).InFormat :=
    .object (List.forall_mem_cons.mpr ⟨.text _, List.forall_mem_singleton.mpr (.real hshare)⟩)
  have hdetails' : (Json.object g.details).InFormat := .object fun m hm => by cases hm
  have hbody : (f.envelope (some "r-1")).write = .ok body := by decide +kernel
  have hbody' : (g.envelope none).write = .ok body' := by decide +kernel
  have htold : client.IsTold Script.transport told "+ 1 2" f :=
    ⟨some "r-1", .ok "/eval", _, congrArg Web.Reply.answer (Web.Reply.json_of_ok hbody 500),
      hfull, _, hurl, rfl, rfl⟩
  have htold' : client.IsTold Script.transport told' "+ 1 2" g :=
    ⟨none, .ok "/eval", _, congrArg Web.Reply.answer (Web.Reply.json_of_ok hbody' 502), hfull, _,
      hurl, rfl, rfl⟩
  obtain ⟨hanswered, -, harrives⟩ := envelopes_arrive rfl hdetails
  have hfits := ((hanswered (some "r-1") (.ok "/eval")).mp
    ⟨_, congrArg Web.Reply.answer (Web.Reply.json_of_ok hbody 500)⟩).2.resolve_left
      (List.cons_ne_nil _ _)
  obtain ⟨hanswer, hsame⟩ := harrives client Script.transport told "+ 1 2" htold
  exact ⟨hdetails, hdetails', hfits, htold, htold', hanswer,
    hsame client Script.transport told' "+ 1 2" g rfl (by decide) hdetails' htold'⟩

end Client

end Remote

end PrefixCalc
