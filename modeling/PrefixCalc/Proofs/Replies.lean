import PrefixCalc.Proofs.JsonValues
import PrefixCalc.Proofs.ServiceAnswers
import PrefixCalc.Web.App

/-!
# What the Application Replies

The replies of the evaluator as an application, for every path, method, query and headers. There
are two kinds (`Replies`). A reply of the first kind says nothing of the id of its request: it is
the same under every id, no header of it is named like the one that carries the id, and its body
is not the envelope of a failure. A reply of the second kind is the envelope of a failure, which
names the id; the failures that come about are those of texts that are no expressions
(`Failure.IsRefusal`), so that an envelope is JSON that reads back.

The policy on other origins adds headers of its own to either kind, and answers a preflight by a
reply of the first kind; so the two kinds are closed under what stands around the routes.

## Main results

* `Service.isRefusal_of_answer`: the failures of the service.
* `Failure.IsRefusal.plain_envelope`: their envelopes are plain JSON.
* `App.replies_answer`: every reply of the application is of one of the two kinds.
-/

namespace PrefixCalc

/-! ### Failures of texts -/

/-- The failure of a text that is no expression: a message in words and at most a column. -/
inductive Failure.IsRefusal : Failure → Prop
  | plain (message : String) : IsRefusal (.ofText .parse message)
  | located (message : String) (column : Nat) :
      IsRefusal (.ofText .parse message [("column", .int column)])

namespace Service

variable {s : Service} {text : String}

/-- **The ways in which reading fails.** -/
theorem read_error_cases {f : Fault} (h : s.read text = .error f) :
    f = .failure emptyExpression ∨
      (∃ limit, f = .failure (.ofText .parse ("Expression exceeds " ++ limit ++ " characters."))) ∨
      f = .escape (.unwritable .tooManyDigits) ∨
      ∃ e, Tree.parse (Text.trim text) = .error e ∧ f = .failure (.ofReadError source e) := by
  rw [read] at h
  by_cases hempty : (Text.trim text).isEmpty = true
  · rw [if_pos hempty] at h
    cases h
    exact .inl rfl
  · rw [if_neg hempty] at h
    by_cases hlong : s.limit < (Text.trim text).length
    · rw [if_pos hlong] at h
      cases hwrite : Decimal.write s.limit with
      | ok limit =>
          rw [hwrite] at h
          cases h
          exact .inr (.inl ⟨limit, rfl⟩)
      | error u =>
          obtain ⟨-, rfl⟩ := Decimal.write_eq_error_iff.mp hwrite
          rw [hwrite] at h
          cases h
          exact .inr (.inr (.inl rfl))
    · rw [if_neg hlong] at h
      cases hparse : Tree.parse (Text.trim text) with
      | ok t =>
          rw [hparse] at h
          cases h
      | error e =>
          rw [hparse] at h
          cases h
          exact .inr (.inr (.inr ⟨e, rfl, rfl⟩))

theorem isRefusal_of_read {f : Failure} (h : s.read text = .error (.failure f)) :
    f.IsRefusal := by
  rcases read_error_cases h with hf | ⟨limit, hf⟩ | hf | ⟨e, -, hf⟩
  · cases hf
    exact .plain _
  · cases hf
    exact .plain _
  · cases hf
  · cases hf
    exact .located _ _

/-- Every call ends in reading, or evaluates a tree and logs that. -/
theorem evaluate_cases (s : Service) (text : String) :
    (∃ f, s.read text = .error f ∧ s.evaluate text = { answer := .error f }) ∨
      ∃ t v, s.read text = .ok t ∧
        s.evaluate text =
          { answer := (Evaluation.ofValue text v).mapError .ofUnwritable, log := [entry t v] } := by
  cases hread : s.read text with
  | error f => exact .inl ⟨f, rfl, by rw [evaluate, hread]⟩
  | ok t =>
      obtain ⟨v, hv⟩ := exists_evaluate_of_read hread
      refine .inr ⟨t, v, rfl, ?_⟩
      rw [evaluate, hread]
      simp only [hv]

/-- **The failures of the service** are those of texts that are no expressions, and nothing is
logged with them. -/
theorem isRefusal_of_answer {f : Failure} (h : (s.evaluate text).answer = .error (.failure f)) :
    f.IsRefusal ∧ (s.evaluate text).log = [] := by
  rcases evaluate_cases s text with ⟨g, hread, heq⟩ | ⟨t, v, -, heq⟩
  · rw [heq] at h
    cases h
    exact ⟨isRefusal_of_read hread, by rw [heq]⟩
  · rw [heq] at h
    cases hvalue : Evaluation.ofValue text v with
    | error u => simp [hvalue, Except.mapError, Fault.ofUnwritable] at h
    | ok e => simp [hvalue, Except.mapError] at h

theorem message_of_mem_log {x : Log.Entry} (h : x ∈ (s.evaluate text).log) :
    x.message = "evaluation.ok" ∨ x.message = "evaluation.error" := by
  rcases evaluate_cases s text with ⟨g, -, heq⟩ | ⟨t, v, -, heq⟩
  · rw [heq] at h
    exact absurd h (by simp)
  · rw [heq, List.mem_singleton] at h
    subst h
    cases v with
    | number n => exact .inl rfl
    | error k => exact .inr rfl

end Service

/-! ### Envelopes -/

namespace Failure

/-- What an envelope says of a failure, whatever the request. -/
def report (f : Failure) : List (String × Json) :=
  [("type", .text f.kind.word), ("message", f.message)] ++
    if f.details.isEmpty then [] else [("details", .object f.details)]

/-- What an envelope says of the request. -/
def trace : Option String → List (String × Json)
  | some id => if id.isEmpty then [] else [("traceId", .text id)]
  | none => []

theorem envelope_eq (f : Failure) (requestId : Option String) :
    f.envelope requestId = .object [("error", .object (f.report ++ trace requestId))] := by
  cases requestId <;> rfl

theorem trace_of_ne {id : String} (h : id ≠ "") : trace (some id) = [("traceId", .text id)] := by
  rw [trace, if_neg (by simpa using h)]

theorem trace_cases (requestId : Option String) :
    trace requestId = [] ∨ ∃ id, trace requestId = [("traceId", .text id)] := by
  cases requestId with
  | none => exact .inl rfl
  | some id =>
      by_cases hid : id = ""
      · exact .inl (by simp [trace, hid])
      · exact .inr ⟨id, trace_of_ne hid⟩

/-- No other member of an envelope is named like the one that names the request. -/
theorem ne_of_mem_report {f : Failure} {m : String × Json} (h : m ∈ f.report) :
    m.1 ≠ "traceId" := by
  rw [report, List.mem_append, List.mem_cons, List.mem_singleton] at h
  rcases h with (rfl | rfl) | h
  · simp
  · simp
  · split at h
    · exact absurd h (by simp)
    · rw [List.mem_singleton] at h
      subst h
      simp

/-- The envelope names the request. -/
theorem member_trace {id : String} (f : Failure) (h : id ≠ "") :
    Json.member? (f.report ++ trace (some id)) "traceId" = some (.text id) := by
  have hnone : f.report.lookup "traceId" = none := by
    rw [List.lookup_eq_none_iff]
    intro m hm
    simpa using (ne_of_mem_report hm).symm
  rw [trace_of_ne h, Json.member?, List.lookup_append, hnone]
  rfl

theorem member_message (f : Failure) (requestId : Option String) :
    Json.member? (f.report ++ trace requestId) "message" = some f.message := by
  rfl

/-- Another name for the request takes the place of the one that is there. -/
theorem put_trace {id id' : String} (f : Failure) (h : id ≠ "") (h' : id' ≠ "") :
    Json.put (f.report ++ trace (some id)) "traceId" (.text id') =
      f.report ++ trace (some id') := by
  have hany : ((f.report ++ [("traceId", Json.text id)]).any fun m => m.1 == "traceId") = true := by
    simp
  have hsame : f.report.map (fun m => if (m.1 == "traceId") = true then
      ("traceId", Json.text id') else m) = f.report := by
    refine (List.map_congr_left ?_).trans (List.map_id _)
    intro m hm
    rw [if_neg (by simpa using ne_of_mem_report hm)]
    rfl
  rw [trace_of_ne h, trace_of_ne h', Json.put, hany, if_pos rfl, List.map_append, hsame]
  rfl

/-- The members of an envelope have different names. -/
theorem names_nodup (f : Failure) (requestId : Option String) :
    ((f.report ++ trace requestId).map Prod.fst).Nodup := by
  rcases trace_cases requestId with htrace | ⟨id, htrace⟩ <;> rw [htrace, report] <;> split <;>
    simp

theorem IsRefusal.exists_message {f : Failure} (h : f.IsRefusal) :
    ∃ message, f.message = .text message := by
  cases h <;> exact ⟨_, rfl⟩

theorem IsRefusal.kind {f : Failure} (h : f.IsRefusal) : f.kind = .parse := by
  cases h <;> rfl

/-- **Envelopes of refused texts are plain JSON.** -/
theorem IsRefusal.plain_envelope {f : Failure} (h : f.IsRefusal) (requestId : Option String) :
    (f.envelope requestId).Plain := by
  have hreport : ∀ m ∈ f.report ++ trace requestId, m.2.Plain := by
    have hcolumn : ∀ column : Int, (Json.object [("column", .int column)]).Plain := by
      intro column
      refine .object (by simp) ?_
      simpa using Json.Plain.int column
    rcases trace_cases requestId with htrace | ⟨id, htrace⟩ <;> rw [htrace] <;> cases h with
    | plain message => simp [report, ofText, Json.Plain.text]
    | located message column => simp [report, ofText, Json.Plain.text, hcolumn]
  rw [envelope_eq]
  refine .object (by simp) ?_
  intro m hm
  rw [List.mem_singleton] at hm
  subst hm
  exact .object (f.names_nodup requestId) hreport

/-- What holds of every text holds of each member of an envelope when it holds of the message and of
the details. -/
theorem forall_mem_envelope_iff {f : Failure} {p : Json → Prop} (htext : ∀ s, p (.text s))
    (requestId : Option String) :
    (∀ m ∈ f.report ++ trace requestId, p m.2) ↔
      p f.message ∧ (f.details = [] ∨ p (.object f.details)) := by
  have htrace : ∀ m ∈ trace requestId, p m.2 := by
    rcases trace_cases requestId with h | ⟨id, h⟩ <;> rw [h]
    · exact fun m hm => by cases hm
    · exact List.forall_mem_singleton.mpr (htext id)
  rw [List.forall_mem_append, and_iff_left htrace, report, List.forall_mem_append,
    List.forall_mem_cons, List.forall_mem_singleton, and_iff_right (htext _)]
  cases f.details with
  | nil => simp
  | cons m ms => simp

/-- **An envelope can be written when its details can**, two containers deep. -/
theorem exists_write_envelope_iff {f : Failure} {message : String}
    (hmessage : f.message = .text message) (requestId : Option String) :
    (∃ body, (f.envelope requestId).write = .ok body) ↔
      f.details = [] ∨ (Json.object f.details).Fits (Json.maxNesting - 2) := by
  have hdepth : Json.maxNesting = Json.maxNesting - 2 + 1 + 1 := rfl
  rw [Json.exists_write_iff, hdepth, f.envelope_eq, Json.fits_object_iff,
    List.forall_mem_singleton, Json.fits_object_iff,
    forall_mem_envelope_iff (p := Json.Fits (Json.maxNesting - 2)) Json.fits_text, hmessage,
    and_iff_right (Json.fits_text message)]
  rfl

/-- **An envelope of a refused text can be written if its column can**, whatever the request. -/
theorem IsRefusal.write_envelope {f : Failure} (h : f.IsRefusal) :
    (∀ requestId, ∃ body, (f.envelope requestId).write = .ok body) ∨
      ∃ column u, f.details = [("column", .int column)] ∧ Decimal.write column = .error u ∧
        ∀ requestId, (f.envelope requestId).write = .error u := by
  cases h with
  | plain message =>
      exact .inl fun requestId => (exists_write_envelope_iff rfl requestId).mpr (.inl rfl)
  | located message column =>
      cases hwrite : Decimal.write column with
      | ok digits =>
          refine .inl fun requestId => (exists_write_envelope_iff rfl requestId).mpr (.inr ?_)
          have hdepth : Json.maxNesting - 2 = Json.maxNesting - 3 + 1 := rfl
          rw [hdepth, ofText, Json.fits_object_iff, List.forall_mem_singleton]
          refine ⟨Nat.zero_le _, ?_⟩
          rw [Json.tokens, List.forall_mem_singleton]
          exact ⟨digits, hwrite⟩
      | error u =>
          have hword : (Json.Token.word (.int column)).write = .error u := hwrite
          refine .inr ⟨column, u, rfl, hwrite, fun requestId => ?_⟩
          have hdepth : ((ofText .parse message [("column", .int column)]).envelope
              requestId).depth ≤ Json.maxNesting := by
            rw [envelope_eq]
            rcases trace_cases requestId with htrace | ⟨id, htrace⟩ <;> rw [htrace] <;>
              simp [report, ofText, Json.depth, Json.depthMembers, Json.maxNesting,
                Json.maxOpenCalls, Json.callsAround]
          rw [Json.write, if_pos hdepth, Json.compact, envelope_eq]
          rcases trace_cases requestId with htrace | ⟨id, htrace⟩ <;> rw [htrace] <;>
            simp only [report, ofText, List.isEmpty_cons, Bool.false_eq_true, if_false,
              List.cons_append, List.nil_append, Json.tokens, Json.memberTokens, List.filter_cons,
              Json.Token.isBroken, Bool.not_false, if_true, List.mapM_cons, hword] <;>
            rfl

end Failure

namespace Web

/-! ### Kinds of replies -/

/-- A body that reads as the envelope of a failure: an object whose member for an error is an
object. -/
def IsEnvelope (body : String) : Prop :=
  ∃ j members, Json.read body = .ok j ∧ j.get? "error" = some (.object members)

/-- No header is named like the one that carries the id of a request. -/
def Unlabelled (headers : Headers) : Prop :=
  ∀ h ∈ headers, h.1 ≠ App.idHeader

/-- A reply that does not name its request, and logs no entry like those that the request itself is
logged by. -/
structure Reply.Anonymous (k : Reply) : Prop where
  entries : ∀ x ∈ k.log, x.message ≠ "request.start" ∧ x.message ≠ "request.end"
  headers : ∀ a, k.answer = .ok a → Unlabelled a.headers
  body : ∀ a, k.answer = .ok a → ¬ IsEnvelope a.body

/-- The two ways in which the reply to a request depends on the id of the request. -/
inductive Replies (reply : Option String → Reply) : Prop
  /-- It does not. -/
  | constant (k : Reply) (hk : k.Anonymous) (h : ∀ id, reply id = k)
  /-- It is the envelope of a failure. -/
  | refusal (f : Failure) (hf : f.IsRefusal) (headers : Headers) (hheaders : Unlabelled headers)
      (h : ∀ id, reply id = (Reply.json f.kind.status (f.envelope id)).withHeaders headers)

theorem Unlabelled.append {headers more : Headers} (h : Unlabelled headers)
    (hmore : Unlabelled more) : Unlabelled (headers ++ more) := by
  intro m hm
  rw [List.mem_append] at hm
  exact hm.elim (h m) (hmore m)

theorem Unlabelled.singleton {name : String} (h : name ≠ App.idHeader) (value : String) :
    Unlabelled [(name, value)] := by
  intro m hm
  rw [List.mem_singleton] at hm
  subst hm
  exact h

namespace Reply

/-- A reply that is the same under every id. -/
theorem Anonymous.replies {k : Reply} (h : k.Anonymous) : Replies fun _ => k :=
  .constant k h fun _ => rfl

theorem withHeaders_nil (k : Reply) : k.withHeaders [] = k := by
  cases k with
  | mk answer log => cases answer <;> simp [withHeaders, Response.withHeaders, Except.map]

/-- A failure that is not the server's own is answered by its envelope, without an entry. -/
theorem ofFailure_of_isRefusal {f : Failure} (h : f.IsRefusal) (requestId : Option String)
    (path : Except Unplaced String) :
    ofFailure requestId path f = json f.kind.status (f.envelope requestId) := by
  have hstatus : ¬ serverStatus ≤ f.kind.status := by
    rw [h.kind]
    decide
  unfold ofFailure
  rw [if_neg hstatus]

/-- The response to a failure is its envelope. Only for a failure of the server's own there must be
a path. -/
theorem ofFailure_eq_ok_iff {requestId : Option String} {path : Except Unplaced String}
    {f : Failure} {a : Response} :
    (ofFailure requestId path f).answer = .ok a ↔
      (f.kind.status < 500 ∨ ∃ p, path = .ok p) ∧
        (json f.kind.status (f.envelope requestId)).answer = .ok a := by
  unfold ofFailure
  split
  · next hserver =>
    have howned : ¬ f.kind.status < 500 := Nat.not_lt.mpr hserver
    cases path <;> simp [howned]
  · next howned => rw [and_iff_right (.inl (Nat.lt_of_not_le howned))]

theorem withHeaders_withHeaders (k : Reply) (headers more : Headers) :
    (k.withHeaders headers).withHeaders more = k.withHeaders (headers ++ more) := by
  cases k with
  | mk answer log => cases answer <;> simp [withHeaders, Response.withHeaders, Except.map]

theorem withHeaders_eq_ok {k : Reply} {headers : Headers} {a : Response}
    (h : (k.withHeaders headers).answer = .ok a) :
    ∃ b, k.answer = .ok b ∧ a = b.withHeaders headers := by
  rw [withHeaders] at h
  cases hanswer : k.answer with
  | error e => simp [hanswer, Except.map] at h
  | ok b =>
      simp only [hanswer, Except.map, Except.ok.injEq] at h
      exact ⟨b, rfl, h.symm⟩

theorem Anonymous.withHeaders {k : Reply} (h : k.Anonymous) {headers : Headers}
    (hheaders : Unlabelled headers) : (k.withHeaders headers).Anonymous := by
  refine ⟨h.entries, ?_, ?_⟩
  · intro a ha
    obtain ⟨b, hb, rfl⟩ := withHeaders_eq_ok ha
    exact (h.headers b hb).append hheaders
  · intro a ha
    obtain ⟨b, hb, rfl⟩ := withHeaders_eq_ok ha
    exact h.body b hb

/-- A response whose body is JSON that can be written. -/
theorem json_of_ok {j : Json} {body : String} (h : j.write = .ok body) (status : Nat) :
    json status j =
      { answer := .ok { status, headers := [("content-type", "application/json")], body } } := by
  rw [json, Response.json, h]
  rfl

/-- A body that cannot be written escapes. -/
theorem json_of_error {j : Json} {u : Unwritable} (h : j.write = .error u) (status : Nat) :
    json status j = { answer := .error (.unwritable u) } := by
  rw [json, Response.json, h]
  rfl

theorem json_eq_ok {status : Nat} {j : Json} {a : Response} (h : (json status j).answer = .ok a) :
    ∃ body, j.write = .ok body ∧
      a = { status, headers := [("content-type", "application/json")], body } := by
  cases hwrite : j.write with
  | error u =>
      rw [json_of_error hwrite] at h
      cases h
  | ok body =>
      rw [json_of_ok hwrite] at h
      cases h
      exact ⟨body, rfl, rfl⟩

/-- A body that is read back and is no description of an error says nothing of the request. -/
theorem anonymous_json {status : Nat} {j : Json}
    (hread : ∀ body, j.write = .ok body → Json.read body = .ok j)
    (herror : ∀ members, j.get? "error" ≠ some (.object members)) : (json status j).Anonymous := by
  refine ⟨fun x hx => absurd hx (by simp [json]), ?_, ?_⟩
  · intro a ha
    obtain ⟨body, -, rfl⟩ := json_eq_ok ha
    exact .singleton (by decide) _
  · intro a ha
    obtain ⟨body, hbody, rfl⟩ := json_eq_ok ha
    rintro ⟨i, members, hi, hmember⟩
    rw [hread body hbody, Except.ok.injEq] at hi
    subst hi
    exact herror members hmember

/-- What is kept of a reply says nothing of the request. -/
theorem Anonymous.keeping {k : Reply} (h : k.Anonymous) (j : Json) :
    ({ k with keeps := some j } : Reply).Anonymous :=
  ⟨h.entries, h.headers, h.body⟩

/-- Only the log of a reply is not that of the reply with other entries. -/
theorem Anonymous.withLog {k : Reply} (h : k.Anonymous) {log : List Log.Entry}
    (hlog : ∀ x ∈ log, x.message ≠ "request.start" ∧ x.message ≠ "request.end") :
    ({ k with log := log ++ k.log } : Reply).Anonymous := by
  refine ⟨?_, h.headers, h.body⟩
  intro x hx
  rw [List.mem_append] at hx
  exact hx.elim (hlog x) (h.entries x)

end Reply

namespace Replies

/-- Headers of the policy on other origins change nothing about the two kinds. -/
theorem withHeaders {reply : Option String → Reply} (h : Replies reply) {more : Headers}
    (hmore : Unlabelled more) : Replies fun id => (reply id).withHeaders more := by
  cases h with
  | constant k hk h => exact .constant _ (hk.withHeaders hmore) fun id => by rw [h id]
  | refusal f hf headers hheaders h =>
      refine .refusal f hf (headers ++ more) (hheaders.append hmore) fun id => ?_
      rw [h id, Reply.withHeaders_withHeaders]

end Replies

/-! ### Handlers -/

/-- A body with one detail reads back. -/
theorem plain_detail (text : String) : (detail text).Plain := by
  refine .object (by simp) ?_
  simpa using Json.Plain.text text

theorem plain_missingExpression : missingExpression.Plain := by
  have hissue : (Json.object [("type", .text "missing"),
      ("loc", .array [.text "query", .text expressionName]), ("msg", .text "Field required"),
      ("input", .null)]).Plain := by
    refine .object (by simp) ?_
    simp [Json.Plain.text, Json.Plain.null, Json.Plain.array]
  refine .object (by simp) ?_
  simpa using Json.Plain.array (by simpa using hissue)

theorem plain_toJson (e : Evaluation) : e.toJson.Plain := by
  refine .object (by simp) ?_
  have hvalue : (e.value.elim Json.null Json.int).Plain := by
    cases e.value with
    | none => exact .null
    | some n => exact .int n
  have herror : (e.error.elim Json.null fun k => Json.text k.name).Plain := by
    cases e.error with
    | none => exact .null
    | some k => exact .text _
  simp [Json.Plain.text, hvalue, herror]

/-- **The replies to a request for an evaluation.** -/
theorem replies_evaluation (s : Service) (r : Request) : Replies fun id => evaluation s id r := by
  cases hvalue : Form.value? r.octetQuery expressionName with
  | none =>
      have hk : (Reply.json 422 missingExpression).Anonymous := by
        refine Reply.anonymous_json (fun _ => Json.read_write plain_missingExpression) ?_
        rintro members ⟨⟩
      exact .constant _ hk fun id => by simp only [evaluation, hvalue]
  | some expression =>
      have hlog : ∀ x ∈ (s.evaluate expression).log,
          x.message ≠ "request.start" ∧ x.message ≠ "request.end" := by
        intro x hx
        rcases Service.message_of_mem_log hx with h | h <;> rw [h] <;> decide
      cases hanswer : (s.evaluate expression).answer with
      | ok e =>
          have hk : (Reply.json 200 e.toJson).Anonymous := by
            refine Reply.anonymous_json (fun _ => Json.read_write (plain_toJson e)) ?_
            intro members h
            have herror : e.toJson.get? "error" = some (e.error.elim .null fun k => .text k.name) :=
              rfl
            rw [herror] at h
            cases hkind : e.error <;> simp [hkind] at h
          exact .constant _ (hk.withLog hlog) fun id => by simp only [evaluation, hvalue, hanswer]
      | error fault =>
          cases fault with
          | escape e =>
              have hk : ({ answer := .error e } : Reply).Anonymous :=
                ⟨fun x hx => absurd hx (by simp), fun a ha => absurd ha (by simp),
                  fun a ha => absurd ha (by simp)⟩
              exact .constant _ (hk.withLog hlog) fun id => by
                simp only [evaluation, hvalue, hanswer]
          | failure f =>
              obtain ⟨hf, hsilent⟩ := Service.isRefusal_of_answer hanswer
              refine .refusal f hf [] (fun h hh => absurd hh (by simp)) fun id => ?_
              simp only [evaluation, hvalue, hanswer, hsilent, Reply.ofFailure_of_isRefusal hf,
                Reply.withHeaders_nil]
              rfl

namespace App

theorem replies_redirect (r : Request) (path : String) : Replies fun _ => redirect r path := by
  refine Reply.Anonymous.replies ⟨fun x hx => absurd hx (by simp [redirect]), ?_, ?_⟩
  · intro a ha
    cases ha
    exact .singleton (by decide) _
  · intro a ha
    cases ha
    rintro ⟨j, members, hread, -⟩
    cases hread

theorem anonymous_detail (status : Nat) (text : String) :
    (Reply.json status (detail text)).Anonymous :=
  Reply.anonymous_json (fun _ => Json.read_write (plain_detail text)) fun members h => by cases h

theorem anonymous_methodNotAllowed (methods : List String) :
    (methodNotAllowed methods).Anonymous :=
  (anonymous_detail 405 _).withHeaders (.singleton (by decide) _)

theorem anonymous_health : (Reply.json 200 (.object [("status", .text "ok")])).Anonymous := by
  have hplain : (Json.object [("status", .text "ok")]).Plain := by
    refine .object (by simp) ?_
    simpa using Json.Plain.text "ok"
  exact Reply.anonymous_json (fun _ => Json.read_write hplain) fun members h => by cases h

/-- A page is not the envelope of a failure. -/
theorem anonymous_shownPage {text : String} (h : ∀ j, Json.read text ≠ .ok j)
    (requestId : Option String) (r : Request) :
    (Documentation.shownPage text requestId r).Anonymous := by
  refine ⟨fun x hx => absurd hx (by simp [Documentation.shownPage]), ?_, ?_⟩
  · intro a ha
    cases ha
    exact .singleton (by decide) _
  · intro a ha
    cases ha
    rintro ⟨j, members, hread, -⟩
    exact h j hread

variable {s : Settings} {d : Documentation} {kept : Option Json} {e : Endpoint}

/-- **What answers a path of the evaluator**: the description, a page, or one of the two routes. -/
theorem handler_cases (h : e ∈ (ofSettings s d).endpoints kept) :
    e.handler = Documentation.description ((ofSettings s d).described kept d) ∨
      (∃ p, e.handler = Documentation.shownPage (d.page p s.apiTitle)) ∨
      e.handler = evaluation (Service.ofSettings s) ∨ e.handler = health := by
  have hmem : e ∈ d.endpoints s.apiTitle ((ofSettings s d).described kept d) ∨
      e ∈ (ofSettings s d).routes.map fun route => { route with methods := ["GET"] } :=
    List.mem_append.mp h
  rcases hmem with hmem | hmem
  · rw [Documentation.endpoints, List.mem_cons, List.mem_map] at hmem
    rcases hmem with rfl | ⟨p, -, rfl⟩
    · exact .inl rfl
    · exact .inr (.inl ⟨p, rfl⟩)
  · obtain ⟨route, hroute, rfl⟩ := List.mem_map.mp hmem
    rw [ofSettings, List.mem_cons, List.mem_singleton] at hroute
    rcases hroute with rfl | rfl
    · refine .inr (.inr (.inl ?_))
      dsimp only
    · refine .inr (.inr (.inr ?_))
      dsimp only

theorem replies_handler (h : e ∈ (ofSettings s d).endpoints none) (r : Request) :
    Replies fun id => e.handler id r := by
  rcases handler_cases h with he | ⟨p, he⟩ | he | he <;> rw [he]
  · have hdescription : (Reply.json 200 (d.describe s.apiTitle s.apiVersion)).Anonymous := by
      refine Reply.anonymous_json (d.read_describe s.apiTitle s.apiVersion) fun members => ?_
      simp [d.errorless]
    exact (hdescription.keeping _).replies
  · exact (anonymous_shownPage (d.malformed p s.apiTitle) none r).replies
  · exact replies_evaluation (Service.ofSettings s) r
  · exact anonymous_health.replies

/-- **The replies to a path**, whether something answers it or not. -/
theorem replies_dispatch (s : Settings) (d : Documentation) (r : Request) :
    Replies fun id => (ofSettings s d).dispatch none id r := by
  cases hendpoint : (ofSettings s d).endpoint? none r.path with
  | some e =>
      by_cases hmethod : r.method ∈ e.methods
      · simpa only [dispatch, hendpoint, if_pos hmethod] using
          replies_handler (List.mem_of_find?_eq_some hendpoint) r
      · simpa only [dispatch, hendpoint, if_neg hmethod] using
          (anonymous_methodNotAllowed e.methods).replies
  | none =>
      by_cases hstripped : (Text.trimRight '/' r.path != r.path &&
          ((ofSettings s d).endpoint? none (Text.trimRight '/' r.path)).isSome) = true
      · simpa only [dispatch, hendpoint, if_pos hstripped] using replies_redirect r _
      · have hmissing : ∀ id, (ofSettings s d).dispatch none id r = notFound := fun id => by
          simp only [dispatch, hendpoint, if_neg hstripped]
        exact .constant _ (anonymous_detail 404 "Not Found") hmissing

end App

/-! ### Preflights -/

namespace Cors

/-- A text that starts with a word that is no JSON word is no envelope. -/
theorem not_isEnvelope_refused (refused : String) :
    ¬ IsEnvelope ("Disallowed CORS " ++ refused) := by
  rintro ⟨j, members, hread, -⟩
  have hscan : Json.Token.scan ("Disallowed CORS " ++ refused) = ([], false) := by
    rw [Json.Token.scan, String.toList_append]
    rfl
  rw [Json.read, hscan] at hread
  cases hread

theorem not_isEnvelope_ok : ¬ IsEnvelope "OK" := by
  rintro ⟨j, members, hread, -⟩
  cases hread

theorem unlabelled_grant (p : Policy) (origin : String) : Unlabelled (p.grant origin) := by
  rw [Policy.grant]
  split
  · exact .singleton (by decide) _
  · exact fun h hh => absurd hh (by simp)

theorem unlabelled_answerHeaders (p : Policy) (r : Request) : Unlabelled (p.answerHeaders r) := by
  intro h hh
  rw [Policy.answerHeaders, List.mem_cons] at hh
  rcases hh with rfl | hh
  · simp [App.idHeader]
  · split at hh
    · rw [List.mem_append, credentials, List.mem_singleton] at hh
      rcases hh with rfl | hh
      · simp [App.idHeader]
      · exact unlabelled_grant p _ h hh
    · exact absurd hh (by simp)

theorem unlabelled_preflightHeaders (p : Policy) (r : Request) (origin : String) :
    Unlabelled (p.preflightHeaders r origin) := by
  intro h hh
  simp only [Policy.preflightHeaders, credentials, List.mem_append, List.mem_cons,
    List.not_mem_nil, or_false, List.mem_map, Option.mem_toList] at hh
  rcases hh with ((((rfl | rfl | rfl) | rfl) | hh) | ⟨asked, -, rfl⟩)
  · simp [App.idHeader]
  · simp [App.idHeader]
  · simp [App.idHeader]
  · simp [App.idHeader]
  · exact unlabelled_grant p origin h hh
  · simp [App.idHeader]

/-- The answer to a preflight says nothing of the request's id. -/
theorem anonymous_preflight (p : Policy) (r : Request) (origin method : String) :
    ({ answer := .ok (p.preflight r origin method) } : Reply).Anonymous := by
  have htext : ∀ status body, Unlabelled (Response.text status body).headers :=
    fun _ _ => .singleton (by decide) _
  refine ⟨fun x hx => absurd hx (by simp), ?_, ?_⟩
  · intro a ha
    cases ha
    rw [Policy.preflight, Response.withHeaders]
    refine Unlabelled.append ?_ (unlabelled_preflightHeaders p r origin)
    split
    · exact htext _ _
    · exact htext _ _
  · intro a ha
    cases ha
    rw [Policy.preflight, Response.withHeaders]
    split
    · exact not_isEnvelope_ok
    · exact not_isEnvelope_refused _

/-- **A policy keeps the two kinds of replies.** -/
theorem replies_guard (p : Policy) {handler : Handler} {r : Request}
    (h : Replies fun id => handler id r) : Replies fun id => p.guard handler id r := by
  cases hpreflight : preflight? r with
  | some asked =>
      obtain ⟨origin, method⟩ := asked
      simpa only [Policy.guard, hpreflight] using (anonymous_preflight p r origin method).replies
  | none =>
      simpa only [Policy.guard, hpreflight] using h.withHeaders (unlabelled_answerHeaders p r)

end Cors

/-- **Every reply of the application is of one of the two kinds.** -/
theorem App.replies_answer (s : Settings) (d : Documentation) (r : Request) :
    Replies fun id => (ofSettings s d).answer none id r := by
  by_cases horigins : (ofSettings s d).origins.isEmpty = true
  · simpa only [answer, if_pos horigins] using replies_dispatch s d r
  · simpa only [answer, if_neg horigins] using Cors.replies_guard _ (replies_dispatch s d r)

end Web

end PrefixCalc
