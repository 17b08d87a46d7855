import PrefixCalc.Proofs.FormEncoding
import PrefixCalc.Proofs.RequestIdentity
import PrefixCalc.Proofs.ServiceLimits
import PrefixCalc.Remote.Transport

/-!
# Deliveries of the Application

What the application delivers to a client for a request that asks for the evaluation of an
expression (`Remote.Asks`), and what the client makes of it. The query is form encoding and reads
back; the reply is that of the service, whatever the policy on other origins and the layer of ids
add around it; the body is a JSON object in UTF-8 and reads back too. So a result comes back as it
was, and a refused text as a failure with the same message.

## Main results

* `Web.Url.ofText_eq_ok`: only the query of a URL depends on the query.
* `Remote.resultOf_write`, `Remote.reported_envelope`: bodies as the client reads them.
* `Remote.deliver_of_ok`, `Remote.deliver_of_failure`: what is delivered for an expression.
-/

namespace PrefixCalc

namespace Web.Url

theorem ofParts_eq_ok {origin path : List Char} {query : String} {fragment : Option (List Char)}
    {u : Url} (h : ofParts origin path query fragment = .ok u) :
    query.length ≤ maxLength ∧ u.query = query ∧
      ofParts origin path "" fragment = .ok { u with query := "" } := by
  rw [ofParts] at h
  split at h
  · next hlengths =>
    cases h
    simp only [List.all_cons, List.all_nil, Bool.and_eq_true, decide_eq_true_eq] at hlengths
    obtain ⟨horigin, hpath, hquery, hfragment, -⟩ := hlengths
    refine ⟨hquery, rfl, ?_⟩
    rw [ofParts, if_pos]
    simp [horigin, hpath, hfragment]
  · cases h

theorem ofNamed_eq_ok {p : Parts} {a : Authority} {path : List Char} {query : String} {u : Url}
    (h : ofNamed p a path query = .ok u) :
    query.length ≤ maxLength ∧ u.query = query ∧
      ofNamed p a path "" = .ok { u with query := "" } := by
  rw [ofNamed] at h ⊢
  split at h
  · cases h
  · obtain ⟨v, hv, h⟩ := bind_eq_ok_iff.mp h
    obtain ⟨hlength, hquery, hwithout⟩ := ofParts_eq_ok hv
    split at h
    · cases h
    · cases h
      exact ⟨hlength, hquery, bind_eq_ok_iff.mpr ⟨_, hwithout, rfl⟩⟩

/-- The query of a URL is the one it was made with, and no other part depends on it. -/
theorem ofText_eq_ok {s query : String} {u : Url} (h : ofText s query = .ok u) :
    query.length ≤ maxLength ∧ u.query = query ∧ ofText s "" = .ok { u with query := "" } := by
  unfold ofText at h ⊢
  dsimp only at h ⊢
  split at h
  · cases h
  · next hcontrol =>
    rw [if_neg hcontrol]
    split at h
    · cases h
    · split at h
      · cases h
      · next hstart =>
        rw [if_neg hstart]
        split at h
        · next hbare =>
          rw [if_pos hbare]
          exact ofParts_eq_ok h
        · next hnamed =>
          rw [if_neg hnamed]
          exact ofNamed_eq_ok h

end Web.Url

/-! ### Requests to the route of evaluations -/

/-- A request for an evaluation is answered by the service, whatever stands in its query. -/
theorem Web.App.answer_of_get (s : Settings) (d : Documentation) {r : Request}
    (hmethod : r.method = "GET") (hpath : r.path = "/eval") :
    ∃ headers, ∀ kept id, (ofSettings s d).answer kept id r =
      (evaluation (Service.ofSettings s) id r).withHeaders headers := by
  have hdispatch : ∀ kept id, (ofSettings s d).dispatch kept id r =
      evaluation (Service.ofSettings s) id r := by
    intro kept id
    have hendpoint : (ofSettings s d).endpoint? kept r.path =
        some ⟨⟨"/eval", evaluation (Service.ofSettings s)⟩, ["GET"]⟩ := by
      rw [hpath]
      rfl
    have hasked : r.method ∈ ["GET"] := by simp [hmethod]
    simp only [dispatch, hendpoint, if_pos hasked]
  by_cases horigins : (ofSettings s d).origins.isEmpty = true
  · refine ⟨[], fun kept id => ?_⟩
    rw [answer, if_pos horigins, hdispatch, Reply.withHeaders_nil]
  · refine ⟨Cors.Policy.answerHeaders ⟨(ofSettings s d).origins⟩ r, fun kept id => ?_⟩
    have hpreflight : Cors.preflight? r = none := by
      rw [Cors.preflight?, if_neg (by rw [hmethod]; decide)]
    rw [answer, if_neg horigins]
    simp only [Cors.Policy.guard, hpreflight, hdispatch]

/-! ### Results as JSON -/

theorem Evaluation.ofJson_toJson (e : Evaluation) : ofJson? e.toJson = some e := by
  obtain ⟨expression, output, value, error⟩ := e
  cases value <;> cases error with
  | none => rfl
  | some k => cases k <;> rfl

theorem Evaluation.exists_write_toJson {e : Evaluation}
    (h : ∀ n, e.value = some n → ∃ digits, Decimal.write n = .ok digits) :
    ∃ body, e.toJson.write = .ok body := by
  have hnull : Json.null.Fits (Json.maxNesting - 1) := by
    refine ⟨Nat.zero_le _, ?_⟩
    rw [Json.tokens, List.forall_mem_singleton]
    exact ⟨_, rfl⟩
  have hvalue : (e.value.elim Json.null Json.int).Fits (Json.maxNesting - 1) := by
    cases hn : e.value with
    | none => exact hnull
    | some n =>
        refine ⟨Nat.zero_le _, ?_⟩
        rw [Option.elim, Json.tokens, List.forall_mem_singleton]
        exact h n hn
  have herror : (e.error.elim Json.null fun k => Json.text k.name).Fits (Json.maxNesting - 1) := by
    cases e.error with
    | none => exact hnull
    | some k => exact Json.fits_text _
  have hdepth : Json.maxNesting = Json.maxNesting - 1 + 1 := rfl
  rw [Json.exists_write_iff, hdepth, toJson, Json.fits_object_iff]
  simp only [List.forall_mem_cons, List.not_mem_nil, false_implies, implies_true, and_true]
  exact ⟨Json.fits_text _, Json.fits_text _, hvalue, herror⟩

namespace Remote

/-- The client takes the text of an object with members for UTF-8, which it is. -/
theorem readBody_of_write {name : String} {j : Json} {ms : List (String × Json)} {body : String}
    (hbody : (Json.object ((name, j) :: ms)).write = .ok body) :
    readBody body = Json.read body := by
  have hstart : ∃ cs, body.toList = '\x7b' :: '"' :: cs := by
    obtain ⟨-, parts, hparts, rfl⟩ := Json.write_eq_ok_iff.mp hbody
    rw [Json.tokens_object_cons] at hparts
    obtain ⟨_, _, hopen, hrest, rfl⟩ := Json.mapM_write_cons hparts
    obtain ⟨_, _, hname, -, rfl⟩ := Json.mapM_write_cons hrest
    cases hopen
    cases hname
    have hquoted : (Json.quotedText name).toList =
        '"' :: (name.toList.flatMap Json.escaped ++ ['"']) := String.toList_ofList
    rw [String.toList_join, List.flatMap_cons, List.flatMap_cons, hquoted]
    exact ⟨_, rfl⟩
  obtain ⟨cs, hcs⟩ := hstart
  have htext : bodyText? body = some body := by
    have hdetect : Text.Encoding.detect (Text.Utf8.octets ('\x7b' :: '"' :: cs)) = .utf8 := by
      change Text.Encoding.detect (0x7B :: 0x22 :: Text.Utf8.octets cs) = .utf8
      cases Text.Utf8.octets cs with
      | nil => rfl
      | cons a octets => cases octets <;> rfl
    simp only [bodyText?, hcs, hdetect]
    rfl
  rw [readBody, htext]

/-- The answer that holds a result is the result. -/
theorem resultOf_write {e : Evaluation} {body : String} (hbody : e.toJson.write = .ok body) :
    resultOf body = .ok e := by
  have hread : readBody body = .ok e.toJson :=
    (readBody_of_write hbody).trans (Json.read_write (Web.plain_toJson e) hbody)
  simp only [resultOf, hread, e.ofJson_toJson]

/-- The message of an envelope is found in what the envelope is read as, whatever becomes of the
details. -/
theorem messageOf_reread_envelope (f : Failure) (requestId : Option String) :
    messageOf (f.envelope requestId).reread = f.message.reread := by
  rw [f.envelope_eq, Json.reread_object (by simp), List.map_singleton,
    Json.reread_object (f.names_nodup requestId)]
  rfl

/-- The answer that holds the envelope of a failure is a failure with its message. Its kind depends
on the status alone. -/
theorem reported_envelope {f : Failure} {requestId : Option String}
    (hformat : (f.envelope requestId).InFormat) {body : String}
    (hbody : (f.envelope requestId).write = .ok body) (status : Nat) :
    reported status body = .failure {
      kind := if status = 400 then .parse else .remote, message := f.message.reread } := by
  have hread : readBody body = .ok (f.envelope requestId).reread := by
    rw [← Json.read_of_write hformat hbody]
    rw [f.envelope_eq] at hbody
    exact readBody_of_write hbody
  simp only [reported, hread, messageOf_reread_envelope]

/-- The answer that holds the envelope of a refused text is a failure of its kind, with its
message. -/
theorem reported_write {f : Failure} (hf : f.IsRefusal) {requestId : Option String} {body : String}
    (hbody : (f.envelope requestId).write = .ok body) :
    reported f.kind.status body = .failure { kind := .parse, message := f.message } := by
  obtain ⟨message, hmessage⟩ := hf.exists_message
  rw [reported_envelope (hf.plain_envelope requestId).inFormat hbody, hf.kind, hmessage,
    Json.reread]
  rfl

/-! ### Requests for evaluations -/

/-- A request that asks for the evaluation of an expression. The host that it names can be read. -/
structure Asks (r : Web.Request) (expression : String) : Prop where
  method : r.method = "GET"
  path : r.path = "/eval"
  placed : r.addressFault? = none
  query : r.query = Web.Form.pairQuery Web.expressionName expression

variable {s : Settings} {d : Web.Documentation} {r : Web.Request} {q : String}

/-- Such a request is answered by the service. -/
theorem answer_of_asks (s : Settings) (d : Web.Documentation) (hr : Asks r q) :
    ∃ headers, ∀ kept id, (Web.App.ofSettings s d).answer kept id r =
      (Web.evaluation (Service.ofSettings s) id r).withHeaders headers :=
  Web.App.answer_of_get s d hr.method hr.path

theorem value_of_asks (hr : Asks r q) :
    Web.Form.value? r.octetQuery Web.expressionName = some q := by
  have hascii : ∀ c ∈ r.query.toList, c.toNat < 128 := by
    rw [hr.query]
    exact Web.Form.ascii_pairQuery
  rw [Web.Request.octetQuery_of_ascii hascii, hr.query, Web.Form.value_pairQuery]

/-- What the client is brought is the reply of the routes. -/
theorem deliver_serve (s : Settings) (d : Web.Documentation) (supply : RequestId.Supply)
    (st : Web.App.State) (hplaced : r.addressFault? = none) :
    deliver ((Web.App.ofSettings s d).serve supply st r).1 =
      match ((Web.App.ofSettings s d).answer st.kept
          (some (Web.App.idOf supply st.ids.taken r)) r).answer with
      | .ok a => .response a.status a.body
      | .error e => .escaped e := by
  obtain ⟨hexchange, -⟩ := Web.App.serve_eq (a := Web.App.ofSettings s d) rfl supply st r
  obtain ⟨path, hpath⟩ := Web.Request.exists_addressPath_iff.mpr hplaced
  simp only [hexchange, Web.App.exchangeUnder, hpath, Web.App.exchange]
  cases ((Web.App.ofSettings s d).answer st.kept
      (some (Web.App.idOf supply st.ids.taken r)) r).answer <;> rfl

/-- The delivery for an expression with a result. -/
theorem deliver_of_ok (hr : Asks r q) {e : Evaluation}
    (h : ((Service.ofSettings s).evaluate q).answer = .ok e) (supply : RequestId.Supply)
    (st : Web.App.State) :
    ∃ body, e.toJson.write = .ok body ∧
      deliver ((Web.App.ofSettings s d).serve supply st r).1 = .response 200 body := by
  obtain ⟨body, hbody⟩ := Evaluation.exists_write_toJson (Service.exists_write_of_answer h)
  obtain ⟨headers, hanswer⟩ := answer_of_asks s d hr
  refine ⟨body, hbody, ?_⟩
  rw [deliver_serve s d supply st hr.placed, hanswer]
  simp only [Web.evaluation, value_of_asks hr, h, Web.Reply.json_of_ok hbody]
  rfl

/-- The delivery for a text that is no expression. -/
theorem deliver_of_failure (hr : Asks r q) {f : Failure}
    (h : ((Service.ofSettings s).evaluate q).answer = .error (.failure f))
    (hlength : (Text.trim q).length ≤ Web.Url.maxLength) (supply : RequestId.Supply)
    (st : Web.App.State) :
    ∃ requestId body, (f.envelope requestId).write = .ok body ∧
      deliver ((Web.App.ofSettings s d).serve supply st r).1 =
        .response f.kind.status body := by
  obtain ⟨hf, -⟩ := Service.isRefusal_of_answer h
  obtain ⟨headers, hanswer⟩ := answer_of_asks s d hr
  have hwritten : ∀ requestId, ∃ body, (f.envelope requestId).write = .ok body := by
    rcases Service.envelope_of_answer h with hwritten | ⟨hlong, -⟩
    · exact hwritten
    · have hshort : (Text.trim q).length + 1 < 10 ^ 5 := by
        rw [Web.Url.maxLength] at hlength
        omega
      exact absurd (hlong.trans_lt hshort)
        (Nat.not_lt.mpr (Nat.pow_le_pow_right (by decide) (by decide)))
  obtain ⟨body, hbody⟩ := hwritten (some (Web.App.idOf supply st.ids.taken r))
  refine ⟨_, body, hbody, ?_⟩
  rw [deliver_serve s d supply st hr.placed, hanswer]
  simp only [Web.evaluation, value_of_asks hr, h, Web.Reply.ofFailure_of_isRefusal hf,
    Web.Reply.json_of_ok hbody]
  rfl

end Remote

end PrefixCalc
