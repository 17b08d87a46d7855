import PrefixCalc.Proofs.ReadValues
import PrefixCalc.Proofs.RemoteAgreement

/-!
# What a Client Makes of a Delivery

A client trims an expression, sends one that is not empty, once, and makes a result or a failure of
what is delivered. A result comes only from a response of status 200 that holds one; a response of
status 400 says that the text was no expression; and everything else is a failure of the remote
evaluator (`Remote.Classifies`). The message of a failure is the one that the response explains it
by, if it does (`Remote.Explains`).

What is sent is counted by a transport that keeps a ledger beside its state and is otherwise the
same (`Remote.Transport.ledger`).

Two things escape, and both come from the URL of the client: a text that is no URL, before anything
is sent, and a response to a URL without a host.

## Main results

* `Remote.Client.ledger_evaluate`: a ledger changes nothing.
* `Remote.classifies_accept`: one delivery.
* `Remote.Client.response_without_host_escapes`: a valid response that is no result.
* `Remote.Client.deliveries_are_classified`: what a client does, for every delivery.
-/

namespace PrefixCalc.Remote

/-! ### Requests -/

/-- A transport with a ledger of the URLs that requests were sent to. -/
def Transport.ledger {σ : Type} (t : Transport σ) : Transport (σ × List Web.Url) where
  prepare := fun s => (t.prepare s.1, s.2)
  send := fun s url => ((t.send s.1 url).1, (t.send s.1 url).2, s.2 ++ [url])

namespace Client

variable {σ : Type} {c : Client} {text : String}

/-- The URLs that requests are sent to for a text. -/
def sent (c : Client) (t : Transport σ) (s : σ) (text : String) : List Web.Url :=
  (c.evaluate t.ledger (s, []) text).2.2

/-- **A ledger changes nothing** but itself. -/
theorem ledger_evaluate (c : Client) (t : Transport σ) (s : σ) (before : List Web.Url)
    (text : String) :
    c.evaluate t.ledger (s, before) text =
      ((c.evaluate t s text).1, (c.evaluate t s text).2, before ++ c.sent t s text) := by
  unfold sent
  cases hempty : (Text.trim text).isEmpty with
  | true => simp only [evaluate_of_empty hempty, List.append_nil]
  | false =>
      cases htarget : c.target (Text.trim text) with
      | error r =>
          simp only [evaluate_of_refused hempty htarget, Transport.ledger, List.append_nil]
      | ok url =>
          simp only [evaluate_of_sent hempty htarget, Transport.ledger, List.nil_append]

end Client

/-! ### Messages -/

/-- The body is an object that explains a failure by a message: the member `message` of its member
`error`. Only objects have members. -/
def Explains (body : String) (message : Json) : Prop :=
  ∃ j report, readBody body = .ok j ∧ j.get? "error" = some report ∧
    report.get? "message" = some message

/-- The message of a failure is the explanation in a body, if there is one. -/
def Reports (body : String) (f : Failure) : Prop :=
  (∀ message, Explains body message → f.message = message) ∧
    ((∀ message, ¬ Explains body message) → f.message = .text "Evaluator request failed.")

/-- A body that is no JSON explains nothing. -/
theorem not_explains_of_malformed {body : String} (h : readBody body = .error .malformed)
    (message : Json) : ¬ Explains body message := by
  rintro ⟨j, report, hread, -⟩
  cases h.symm.trans hread

theorem messageOf_of_explains {body : String} {j message : Json} (hread : readBody body = .ok j)
    (h : Explains body message) : messageOf j = message := by
  obtain ⟨i, report, hbody, herror, hmessage⟩ := h
  obtain rfl : j = i := Except.ok.inj (hread.symm.trans hbody)
  simp only [messageOf, herror, hmessage, Option.getD_some]

theorem messageOf_of_not_explains {body : String} {j : Json} (hread : readBody body = .ok j)
    (h : ∀ message, ¬ Explains body message) : messageOf j = unexplained := by
  unfold messageOf
  split
  · next error herror =>
    cases hmessage : error.get? "message" with
    | none => rfl
    | some message => exact absurd ⟨j, error, hread, herror, hmessage⟩ (h message)
  · rfl

/-- **What is reported** of a response of another status than 200, unless its body is nested too
deep. -/
theorem exists_reported (status : Nat) {body : String} (h : readBody body ≠ .error .tooDeep) :
    ∃ f, reported status body = .failure f ∧
      f.kind = (if status = 400 then .parse else .remote) ∧ Reports body f := by
  rw [reported]
  cases hread : readBody body with
  | ok j =>
      exact ⟨_, rfl, rfl, fun message => messageOf_of_explains hread,
        messageOf_of_not_explains hread⟩
  | error fault =>
      cases fault with
      | malformed =>
          refine ⟨_, rfl, rfl, fun message hmessage => ?_, fun _ => rfl⟩
          exact absurd hmessage (not_explains_of_malformed hread message)
      | tooDeep => exact absurd hread h

/-! ### Deliveries -/

/-- What a network delivers: nothing, or a response whose body is JSON or malformed. A body that is
nested too deep to be read is left out, and so is an application in the same process that was
stopped by an escape. -/
def Delivery.FromNetwork : Delivery → Prop
  | .failed => True
  | .response _ body => readBody body ≠ .error .tooDeep
  | .escaped _ => False

/-- A delivery is a response of status 200 that holds a result. -/
def Delivery.Holds (d : Delivery) (e : Evaluation) : Prop :=
  ∃ body j, d = .response 200 body ∧ readBody body = .ok j ∧ Evaluation.ofJson? j = some e

/-- An answer is the one for a delivery. -/
structure Classifies (d : Delivery) (answer : Except Fault Evaluation) : Prop where
  /-- A result comes from a response that holds it. -/
  result : ∀ e, answer = .ok e ↔ d.Holds e
  /-- That the text is no expression comes from a response of status 400. -/
  parse : (∃ f, answer = .error (.failure f) ∧ f.kind = .parse) ↔ ∃ body, d = .response 400 body
  /-- All that is left is a failure of the remote evaluator. -/
  remote : (∃ f, answer = .error (.failure f) ∧ f.kind = .remote) ↔
    (∀ e, ¬ d.Holds e) ∧ ∀ body, d ≠ .response 400 body
  /-- A response of another status than 200 explains the failure, or leaves it unexplained. -/
  message : ∀ status body, d = .response status body → status ≠ 200 →
    ∃ f, answer = .error (.failure f) ∧ Reports body f
  noEscape : ∀ e, answer ≠ .error (.escape e)

theorem Classifies.of_holds {d : Delivery} {e : Evaluation} (h : d.Holds e) :
    Classifies d (.ok e) := by
  obtain ⟨body, j, rfl, hread, hresult⟩ := h
  refine ⟨?_, ?_, ?_, ?_, fun e h => by cases h⟩
  · intro e'
    constructor
    · intro heq
      cases heq
      exact ⟨body, j, rfl, hread, hresult⟩
    · rintro ⟨body', j', heq, hread', hresult'⟩
      cases heq
      cases hread.symm.trans hread'
      rw [Option.some.inj (hresult.symm.trans hresult')]
  · constructor
    · rintro ⟨f, hf, -⟩
      cases hf
    · rintro ⟨body', heq⟩
      cases heq
  · constructor
    · rintro ⟨f, hf, -⟩
      cases hf
    · rintro ⟨hnone, -⟩
      exact absurd ⟨body, j, rfl, hread, hresult⟩ (hnone e)
  · intro status body' heq hstatus
    cases heq
    exact absurd rfl hstatus

theorem Classifies.of_refused {body : String} {f : Failure} (hkind : f.kind = .parse)
    (hreports : Reports body f) : Classifies (.response 400 body) (.error (.failure f)) := by
  have hholds : ∀ e, ¬ (Delivery.response 400 body).Holds e := by
    rintro e ⟨body', j, heq, -⟩
    cases heq
  refine ⟨?_, ?_, ?_, ?_, fun e h => by cases h⟩
  · intro e
    exact ⟨fun heq => (by cases heq), fun he => absurd he (hholds e)⟩
  · exact ⟨fun _ => ⟨body, rfl⟩, fun _ => ⟨f, rfl, hkind⟩⟩
  · constructor
    · rintro ⟨g, hg, hremote⟩
      cases hg
      rw [hkind] at hremote
      cases hremote
    · rintro ⟨-, hnone⟩
      exact absurd rfl (hnone body)
  · intro status body' heq hstatus
    cases heq
    exact ⟨f, rfl, hreports⟩

theorem Classifies.of_remote {d : Delivery} {f : Failure} (hkind : f.kind = .remote)
    (hholds : ∀ e, ¬ d.Holds e) (hstatus : ∀ body, d ≠ .response 400 body)
    (hreports : ∀ status body, d = .response status body → status ≠ 200 → Reports body f) :
    Classifies d (.error (.failure f)) := by
  refine ⟨?_, ?_, ?_, ?_, fun e h => by cases h⟩
  · intro e
    exact ⟨fun heq => (by cases heq), fun he => absurd he (hholds e)⟩
  · constructor
    · rintro ⟨g, hg, hparse⟩
      cases hg
      rw [hkind] at hparse
      cases hparse
    · rintro ⟨body, heq⟩
      exact absurd heq (hstatus body)
  · exact ⟨fun _ => ⟨hholds, hstatus⟩, fun _ => ⟨f, rfl, hkind⟩⟩
  · intro status body heq hother
    exact ⟨f, rfl, hreports status body heq hother⟩

/-- The body of a response of status 200 that holds no result. -/
theorem classifies_resultOf {body : String} (h : readBody body ≠ .error .tooDeep) :
    Classifies (.response 200 body) (resultOf body) := by
  have hstatus : ∀ body', Delivery.response 200 body ≠ .response 400 body' := by
    intro body' heq
    cases heq
  have hreports : ∀ {f : Failure} (status : Nat) (body' : String),
      Delivery.response 200 body = .response status body' → status ≠ 200 → Reports body' f := by
    intro f status body' heq hother
    cases heq
    exact absurd rfl hother
  rw [resultOf]
  cases hread : readBody body with
  | error fault =>
      cases fault with
      | malformed =>
          refine .of_remote rfl ?_ hstatus hreports
          rintro e ⟨body', j, heq, hvalue, -⟩
          cases heq
          cases hread.symm.trans hvalue
      | tooDeep => exact absurd hread h
  | ok j =>
      cases hresult : Evaluation.ofJson? j with
      | some e =>
          simp only [hresult]
          exact .of_holds ⟨body, j, rfl, hread, hresult⟩
      | none =>
          simp only [hresult]
          refine .of_remote rfl ?_ hstatus hreports
          rintro e ⟨body', j', heq, hvalue, hsome⟩
          cases heq
          cases hread.symm.trans hvalue
          cases hresult.symm.trans hsome

/-- **One delivery**, if it is the answer of a host or none. -/
theorem classifies_accept {url : Web.Url} {d : Delivery} (hd : d.FromNetwork)
    (hurl : url.isAbsolute = true ∨ d = .failed) : Classifies d (accept url d) := by
  cases d with
  | escaped e => cases hd
  | failed =>
      refine .of_remote rfl ?_ ?_ ?_
      · rintro e ⟨body, j, heq, -⟩
        cases heq
      · intro body heq
        cases heq
      · intro status body heq
        cases heq
  | response status body =>
      have habsolute : url.isAbsolute = true := hurl.resolve_right (by simp)
      -- status 200 has a reader of its own, and among the rest 400 has a kind of its own
      simp only [accept, habsolute, Bool.not_true, Bool.false_eq_true, if_false]
      split_ifs with hok
      · subst hok
        exact classifies_resultOf hd
      · obtain ⟨f, hf, hkind, hreports⟩ := exists_reported status hd
        rw [hf]
        by_cases hrefused : status = 400
        · subst hrefused
          exact .of_refused hkind hreports
        · rw [if_neg hrefused] at hkind
          refine .of_remote hkind ?_ ?_ ?_
          · rintro e ⟨body', j, heq, -⟩
            cases heq
            exact hok rfl
          · intro body' heq
            cases heq
            exact hrefused rfl
          · intro status' body' heq hother
            cases heq
            exact hreports

/-! ### Clients -/

namespace Client

/-- **A response to a URL without a host** escapes, though its body is a result; and a text that is
no URL escapes before anything is sent. -/
theorem response_without_host_escapes :
    let body := "\x7b\"expression\": \"e\", \"output\": \"42\", \"value\": 42\x7d"
    let script : Script := { pending := [.response 200 body] }
    let hostless : Client := { baseUrl := "h" }
    let numberless : Client := { baseUrl := "http://h:abc" }
    (Delivery.response 200 body).FromNetwork ∧
      (Delivery.response 200 body).Holds { expression := "e", output := "42", value := some 42 } ∧
      hostless.sent Script.transport script "+ 1 2" =
        [{ origin := "", path := "/h/eval", query := "query=%2B+1+2" }] ∧
      (hostless.evaluate Script.transport script "+ 1 2").1 =
        .error (.escape (.unplaced (.bare "/h/eval?query=%2B+1+2"))) ∧
      ¬ Classifies (.response 200 body)
        (hostless.evaluate Script.transport script "+ 1 2").1 ∧
      numberless.sent Script.transport script "+ 1 2" = [] ∧
      (numberless.evaluate Script.transport script "+ 1 2").1 =
        .error (.escape (.address .malformed)) := by
  intro body script hostless numberless
  have hread : readBody "\x7b\"expression\": \"e\", \"output\": \"42\", \"value\": 42\x7d" =
      .ok (.object [("expression", .text "e"), ("output", .text "42"), ("value", .int 42)]) := by
    rfl
  have hfull : (Text.trim "+ 1 2").isEmpty = false := by decide
  have hurl : Client.target { baseUrl := "h" } (Text.trim "+ 1 2") =
      .ok { origin := "", path := "/h/eval", query := "query=%2B+1+2" } := by decide
  have hrefused : Client.target { baseUrl := "http://h:abc" } (Text.trim "+ 1 2") =
      .error .malformed := by decide
  have hescape : (hostless.evaluate Script.transport script "+ 1 2").1 =
      .error (.escape (.unplaced (.bare "/h/eval?query=%2B+1+2"))) := by
    rw [evaluate_of_sent hfull hurl]
    rfl
  refine ⟨?_, ⟨body, _, rfl, hread, rfl⟩, ?_, hescape, fun h => h.noEscape _ hescape, ?_, ?_⟩
  · rw [Delivery.FromNetwork, hread]
    exact fun h => by cases h
  · rw [sent, evaluate_of_sent hfull hurl]
    rfl
  · rw [sent, evaluate_of_refused hfull hrefused]
    rfl
  · rw [evaluate_of_refused hfull hrefused]

/-- **What a client does**, for every transport and every delivery.

An empty expression is refused and not sent. Any other is sent once, trimmed, and what is delivered
decides the answer, if it comes from a host. What escapes is a text that is no URL, for which
nothing is sent, and a response to a URL without a host. -/
theorem deliveries_are_classified {σ : Type} (c : Client) (t : Transport σ) (s : σ)
    (text : String) :
    let expression := Text.trim text
    let answer := (c.evaluate t s text).1
    let sent := c.sent t s text
    (expression.isEmpty = true →
      answer = .error (.failure (.ofText .parse "Expression cannot be empty.")) ∧ sent = []) ∧
    (expression.isEmpty = false → ∀ url, c.target expression = .ok url →
      let d := (t.send (t.prepare s) url).1
      sent = [url] ∧ Web.Form.pairs url.query = [("query", expression)] ∧
        (d.FromNetwork → url.isAbsolute = true ∨ d = .failed → Classifies d answer) ∧
        (url.isAbsolute = false → ∀ status body, d = .response status body →
          answer = .error (.escape (.unplaced (.bare url.text))))) ∧
    (expression.isEmpty = false → ∀ r, c.target expression = .error r →
      sent = [] ∧ answer = .error (.escape (.address r))) := by
  intro expression answer sent
  refine ⟨?_, ?_, ?_⟩
  · intro hempty
    simp only [answer, sent, Client.sent, evaluate_of_empty hempty]
    exact ⟨rfl, trivial⟩
  · intro hfull url hurl d
    obtain ⟨hquery, -⟩ := query_of_target hurl
    have hanswer : answer = accept url d := by
      simp only [answer, d, evaluate_of_sent hfull hurl]
    have hsent : sent = [url] := by
      simp only [sent, Client.sent, evaluate_of_sent hfull hurl]
      rfl
    refine ⟨hsent, ?_, ?_, ?_⟩
    · rw [hquery]
      exact Web.Form.pairs_pairQuery _ _
    · intro hd hplaced
      rw [hanswer]
      exact classifies_accept hd hplaced
    · intro hhost status body hd
      simp only [hanswer, hd, accept, hhost, Bool.not_false, if_true]
  · intro hfull r hrefused
    simp only [answer, sent, Client.sent, evaluate_of_refused hfull hrefused]
    exact ⟨rfl, trivial⟩

/-- A response of status 400 that explains the failure by a number. -/
theorem deliveries_are_classified_of_refused :
    let body := "\x7b\"error\": \x7b\"message\": 7\x7d\x7d"
    let script : Script := { pending := [.response 400 body] }
    let client : Client := { baseUrl := "http://h" }
    let url : Web.Url := { origin := "http://h", path := "/eval", query := "query=%2B+1+2" }
    (Text.trim " + 1 2 ").isEmpty = false ∧ client.target (Text.trim " + 1 2 ") = .ok url ∧
      (Delivery.response 400 body).FromNetwork ∧ url.isAbsolute = true ∧
      client.sent Script.transport script " + 1 2 " = [url] ∧
      Web.Form.pairs url.query = [("query", Text.trim " + 1 2 ")] ∧
      ∃ f, (client.evaluate Script.transport script " + 1 2 ").1 = .error (.failure f) ∧
        f.kind = .parse ∧ f.message = .int 7 := by
  intro body script client url
  have hfull : (Text.trim " + 1 2 ").isEmpty = false := by decide
  have hurl : Client.target { baseUrl := "http://h" } (Text.trim " + 1 2 ") =
      .ok { origin := "http://h", path := "/eval", query := "query=%2B+1+2" } := by decide
  have hread : readBody "\x7b\"error\": \x7b\"message\": 7\x7d\x7d" =
      .ok (.object [("error", .object [("message", .int 7)])]) := by rfl
  have hnetwork : (Delivery.response 400 body).FromNetwork := by
    rw [Delivery.FromNetwork, hread]
    exact fun h => by cases h
  obtain ⟨-, hsend, -⟩ := deliveries_are_classified client Script.transport script " + 1 2 "
  obtain ⟨hsent, hpairs, hclass, -⟩ := hsend hfull url hurl
  have hclassified := hclass hnetwork (.inl rfl)
  obtain ⟨f, hf, hkind⟩ := hclassified.parse.mpr ⟨body, rfl⟩
  obtain ⟨g, hg, hexplained, -⟩ := hclassified.message 400 body rfl (by decide)
  obtain rfl : f = g := by simpa using hf.symm.trans hg
  exact ⟨hfull, hurl, hnetwork, rfl, hsent, hpairs, f, hf, hkind,
    hexplained _ ⟨_, _, hread, rfl, rfl⟩⟩

end Client

end PrefixCalc.Remote
