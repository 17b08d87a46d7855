import PrefixCalc.Proofs.Deliveries
import PrefixCalc.Proofs.LoadedSettings
import PrefixCalc.Proofs.Sessions

/-!
# Remote Evaluation Agrees with Local Evaluation

A client whose requests reach an application (`Remote.Reaches`) is compared with the service that
the application runs. The transport brings requests and responses unchanged, and may do anything
else: the application may have served others before, and each request may carry any headers.

For one text the agreement is a chain of the results about what is delivered. For a session it
follows from that, since what a session shows is a function of the texts that its lines are answered
by.

## Main results

* `Remote.evaluate_of_ok`, `Remote.evaluate_of_failure`: one text.
* `Remote.session_agrees`: sessions.
* `Remote.remote_agrees_with_local`: both, and when they apply.
-/

namespace PrefixCalc.Remote

variable {s : Settings} {d : Web.Documentation} {q : String}

/-! ### The client -/

namespace Client

variable {σ : Type} {c : Client} {text : String}

theorem evaluate_of_empty (h : (Text.trim text).isEmpty = true) (t : Transport σ) (state : σ) :
    c.evaluate t state text = (.error (.failure Service.emptyExpression), state) := by
  rw [evaluate, if_pos h]

theorem evaluate_of_refused (hfull : (Text.trim text).isEmpty = false) {r : Web.Url.Refusal}
    (h : c.target (Text.trim text) = .error r) (t : Transport σ) (state : σ) :
    c.evaluate t state text = (.error (.escape (.address r)), t.prepare state) := by
  simp only [evaluate, hfull, h, Bool.false_eq_true, if_false]

theorem evaluate_of_sent (hfull : (Text.trim text).isEmpty = false) {url : Web.Url}
    (h : c.target (Text.trim text) = .ok url) (t : Transport σ) (state : σ) :
    c.evaluate t state text =
      (accept url (t.send (t.prepare state) url).1, (t.send (t.prepare state) url).2) := by
  simp only [evaluate, hfull, h, Bool.false_eq_true, if_false]

@[simp] theorem evaluator_answer (c : Client) (t : Transport σ) (state : σ) (text : String) :
    (c.evaluator t state text).1.answer = (c.evaluate t state text).1 := by
  rw [evaluator]

end Client

/-- Requests of a client reach an application, and its responses come back, unchanged. The
application may have served other requests before, and a request may carry any headers, if the host
that it names can be read. -/
structure Reaches {σ : Type} (c : Client) (t : Transport σ) (a : Web.App) : Prop where
  absolute : ∀ expression url, c.target expression = .ok url → url.isAbsolute = true
  delivers : ∀ state expression url, c.target expression = .ok url →
    ∃ supply st, ∃ r : Web.Request, r.method = "GET" ∧ r.path = "/eval" ∧
      r.addressFault? = none ∧ r.query = url.query ∧
      (t.send state url).1 = deliver (a.serve supply st r).1

/-- A text has a URL to be sent to, or is not sent. -/
def Client.Accepts (c : Client) (text : String) : Prop :=
  (Text.trim text).isEmpty = true ∨ ∃ url, c.target (Text.trim text) = .ok url

variable {σ : Type} {c : Client} {t : Transport σ} {text : String}

/-- The query for a text names the text, which is not longer than a URL may be. -/
theorem query_of_target {url : Web.Url} (h : c.target q = .ok url) :
    url.query = Web.Form.pairQuery Web.expressionName q ∧ q.length ≤ Web.Url.maxLength := by
  obtain ⟨hlength, hsent, -⟩ := Web.Url.ofText_eq_ok h
  have hpair : "query=" ++ Web.Form.encode q = Web.Form.pairQuery Web.expressionName q := by
    have hname : Web.Form.encode Web.expressionName ++ "=" = "query=" := by decide
    rw [Web.Form.pairQuery, hname]
  have hencoded := Web.Form.length_le_encode q
  rw [String.length_append] at hlength
  exact ⟨hsent.trans hpair, by omega⟩

/-- A text that is not empty is sent, and its delivery accepted. -/
theorem evaluate_of_target (h : Reaches c t (Web.App.ofSettings s d))
    (hfull : (Text.trim text).isEmpty = false) {url : Web.Url}
    (hurl : c.target (Text.trim text) = .ok url) (state : σ) :
    (Text.trim text).length ≤ Web.Url.maxLength ∧
      ∃ supply st, ∃ r : Web.Request, Asks r (Text.trim text) ∧
      (c.evaluate t state text).1 =
        match deliver ((Web.App.ofSettings s d).serve supply st r).1 with
        | .failed => .error (.failure unavailable)
        | .escaped e => .error (.escape e)
        | .response status body =>
          if status = 200 then resultOf body else .error (reported status body) := by
  obtain ⟨supply, st, r, hmethod, hpath, hplaced, hquery, hdelivery⟩ :=
    h.delivers (t.prepare state) (Text.trim text) url hurl
  obtain ⟨hpair, hlength⟩ := query_of_target hurl
  refine ⟨hlength, supply, st, r, ⟨hmethod, hpath, hplaced, hquery.trans hpair⟩, ?_⟩
  have habsolute := h.absolute _ url hurl
  rw [Client.evaluate_of_sent hfull hurl, hdelivery]
  cases deliver ((Web.App.ofSettings s d).serve supply st r).1 with
  | failed => rfl
  | escaped e => rfl
  | response status body =>
      simp only [accept, habsolute, Bool.not_true, Bool.false_eq_true, if_false]

/-- An empty text is no expression to the service. -/
theorem answer_of_empty (hempty : (Text.trim text).isEmpty = true) (s : Service) :
    (s.evaluate text).answer = .error (.failure Service.emptyExpression) := by
  have hread : s.read text = .error (.failure Service.emptyExpression) := by
    rw [Service.read, if_pos hempty]
  exact Service.answer_of_read_error hread

/-- **A result of the service is the result of the client**, but for the blanks around the
expression. -/
theorem evaluate_of_ok (h : Reaches c t (Web.App.ofSettings s d)) (haccepts : c.Accepts text)
    {e : Evaluation} (hlocal : ((Service.ofSettings s).evaluate text).answer = .ok e) (state : σ) :
    (c.evaluate t state text).1 = .ok { e with expression := Text.trim text } := by
  cases hempty : (Text.trim text).isEmpty with
  | true =>
      rw [answer_of_empty hempty] at hlocal
      cases hlocal
  | false =>
      obtain ⟨url, hurl⟩ := haccepts.resolve_left (by simp [hempty])
      obtain ⟨-, supply, st, r, hasks, hevaluate⟩ := evaluate_of_target h hempty hurl state
      have htrimmed : ((Service.ofSettings s).evaluate (Text.trim text)).answer =
          .ok { e with expression := Text.trim text } := by
        rw [Service.answer_trim, hlocal]
        rfl
      obtain ⟨body, hbody, hdeliver⟩ := deliver_of_ok hasks htrimmed supply st
      rw [hevaluate, hdeliver]
      exact resultOf_write hbody

/-- **A failure of the service is a failure of the client** with the same message. -/
theorem evaluate_of_failure (h : Reaches c t (Web.App.ofSettings s d)) (haccepts : c.Accepts text)
    {f : Failure} (hlocal : ((Service.ofSettings s).evaluate text).answer = .error (.failure f))
    (state : σ) :
    (c.evaluate t state text).1 = .error (.failure { kind := .parse, message := f.message }) := by
  cases hempty : (Text.trim text).isEmpty with
  | true =>
      rw [answer_of_empty hempty] at hlocal
      cases hlocal
      rw [Client.evaluate_of_empty hempty]
      rfl
  | false =>
      obtain ⟨url, hurl⟩ := haccepts.resolve_left (by simp [hempty])
      obtain ⟨hlength, supply, st, r, hasks, hevaluate⟩ :=
        evaluate_of_target h hempty hurl state
      have htrimmed : ((Service.ofSettings s).evaluate (Text.trim text)).answer =
          .error (.failure f) := by
        rw [Service.answer_trim, hlocal]
        rfl
      obtain ⟨requestId, body, hbody, hdeliver⟩ :=
        deliver_of_failure hasks htrimmed (by rwa [Text.trim_trim]) supply st
      obtain ⟨hf, -⟩ := Service.isRefusal_of_answer hlocal
      have hstatus : f.kind.status ≠ 200 := by
        rw [hf.kind]
        decide
      rw [hevaluate, hdeliver]
      simp only [if_neg hstatus, reported_write hf hbody]

/-- The text that is written for a text is the same over the client and over the service. -/
theorem exists_answerText (h : Reaches c t (Web.App.ofSettings s d)) (haccepts : c.Accepts text)
    (hwrites : (Service.ofSettings s).Writes text) :
    ∃ written, Session.answerText? ((Service.ofSettings s).evaluate text).answer = some written ∧
      ∀ state, Session.answerText? (c.evaluate t state text).1 = some written := by
  rcases Service.answer_cases hwrites with ⟨e, he⟩ | ⟨f, hf⟩
  · refine ⟨e.output, by rw [he]; rfl, fun state => ?_⟩
    rw [evaluate_of_ok h haccepts he]
    rfl
  · obtain ⟨message, hmessage⟩ := (Service.isRefusal_of_answer hf).1.exists_message
    refine ⟨message, by rw [hf, Session.answerText?, hmessage], fun state => ?_⟩
    rw [evaluate_of_failure h haccepts hf, Session.answerText?, hmessage]

/-- **A session over a client shows what the same session over the service shows**, and ends
alike. -/
theorem session_agrees (h : Reaches c t (Web.App.ofSettings s d)) {lines : List String}
    (hlines : ∀ line ∈ lines, c.Accepts line ∧ (Service.ofSettings s).Writes line)
    (prompt : String) (state : σ) :
    let far := (Session.run prompt (c.evaluator t) state lines).1
    let near := (Session.run prompt (Service.ofSettings s).evaluator () lines).1
    far.steps = near.steps ∧ CommandLine.sessionRun far = CommandLine.sessionRun near ∧
      (CommandLine.sessionRun near).ending = .status 0 := by
  intro far near
  let texts : String → String := fun line =>
    (Session.answerText? ((Service.ofSettings s).evaluate line).answer).getD ""
  have hnear : Session.Answers (Service.ofSettings s).evaluator texts lines := by
    intro line hline _
    obtain ⟨written, hwritten, -⟩ := exists_answerText h (hlines line hline).1 (hlines line hline).2
    simp only [texts, Service.evaluator, hwritten, Option.getD_some]
  have hfar : Session.Answers (c.evaluator t) texts lines := by
    intro line hline state
    obtain ⟨written, hwritten, hremote⟩ :=
      exists_answerText h (hlines line hline).1 (hlines line hline).2
    simp only [texts, Client.evaluator_answer, hwritten, hremote, Option.getD_some]
  have hend := CommandLine.sessionRun_of_answers hnear prompt ()
  refine ⟨?_, (CommandLine.sessionRun_of_answers hfar prompt state).trans hend.symm, ?_⟩
  · rw [(Session.run_of_answers hfar prompt state).1, (Session.run_of_answers hnear prompt ()).1]
  · rw [hend]

/-- A client of an application in the same process. -/
def nearClient : Client :=
  { baseUrl := "http://lispy.local" }

theorem reaches_inProcess (supply : RequestId.Supply) (a : Web.App) :
    Reaches nearClient (inProcess supply a) a := by
  have hurl : ∀ expression url, nearClient.target expression = .ok url →
      url.origin = "http://lispy.local" ∧ url.path = "/eval" := by
    intro expression url h
    obtain ⟨-, -, hwithout⟩ := Web.Url.ofText_eq_ok h
    have hbase : Web.Url.ofText (nearClient.baseUrl ++ "/eval") "" =
        .ok { origin := "http://lispy.local", path := "/eval" } := rfl
    rw [hbase, Except.ok.injEq, Web.Url.mk.injEq] at hwithout
    exact ⟨hwithout.1.symm, hwithout.2.1.symm⟩
  constructor
  · intro expression url h
    rw [Web.Url.isAbsolute, (hurl expression url h).1]
    decide
  · intro calls expression url h
    have hpath : (requestFor url).path = "/eval" := by
      have hplain : String.ofList (Web.Percent.decode "/eval".toList) = "/eval" := by decide
      rw [requestFor, (hurl expression url h).2]
      exact hplain
    have hhost : Web.PlainHost (requestFor url).host := by
      change Web.PlainHost "lispy.local"
      decide
    have haddress := Web.addressPath_of_plain hhost (hpath ▸ by decide)
    have hplaced := Web.Request.exists_addressPath_iff.mp ⟨_, haddress⟩
    exact ⟨supply, calls.state, requestFor url, rfl, hpath, hplaced, rfl, rfl⟩

/-- **Remote evaluation agrees with local evaluation.** Let the requests of a client reach an
application with some settings, and compare the client with a service of the same limit, for texts
that can be sent. Where the service has a result, so has the client: the same, but for the blanks
around the expression. Where the service refuses the text, so does the client, with the same
message. The service does nothing else, unless a number has too many digits to be written; and that
does not occur when the limit comes from the environment and is at most two above the digits that
can be written. A session over such lines shows the same over both, and ends alike. -/
theorem remote_agrees_with_local {σ : Type} {s : Settings} {d : Web.Documentation} {c : Client}
    {t : Transport σ}
    (h : Reaches c t (Web.App.ofSettings s d)) :
    let service := Service.ofSettings s
    (∀ text, c.Accepts text → ∀ state,
      (∀ e, (service.evaluate text).answer = .ok e →
        (c.evaluate t state text).1 = .ok { e with expression := Text.trim text }) ∧
      (∀ f, (service.evaluate text).answer = .error (.failure f) → f.kind = .parse ∧
        ∃ g, (c.evaluate t state text).1 = .error (.failure g) ∧ g.kind = .parse ∧
          g.message = f.message)) ∧
    (∀ text, service.Writes text → (∃ e, (service.evaluate text).answer = .ok e) ∨
      ∃ f, (service.evaluate text).answer = .error (.failure f)) ∧
    (∀ environment file, Settings.load { environment, file } = .ok s →
      s.maxExpressionLength ≤ (Decimal.maxDigits : Int) + 2 → ∀ text, service.Writes text) ∧
    ∀ prompt lines, (∀ line ∈ lines, c.Accepts line ∧ service.Writes line) → ∀ state,
      let far := (Session.run prompt (c.evaluator t) state lines).1
      let near := (Session.run prompt service.evaluator () lines).1
      far.steps = near.steps ∧ CommandLine.sessionRun far = CommandLine.sessionRun near ∧
        (CommandLine.sessionRun near).ending = .status 0 := by
  intro service
  refine ⟨?_, fun text => Service.answer_cases, ?_, ?_⟩
  · intro text haccepts state
    refine ⟨fun e he => evaluate_of_ok h haccepts he state, fun f hf => ?_⟩
    exact ⟨(Service.isRefusal_of_answer hf).1.kind, _, evaluate_of_failure h haccepts hf state,
      rfl, rfl⟩
  · intro environment file hload hlimit text
    have hdigits : Decimal.digitCount service.limit ≤ Decimal.maxDigits :=
      Settings.digitCount_of_load hload
    exact service.writes_of_limit hdigits hlimit text
  · intro prompt lines hlines state
    exact session_agrees h hlines prompt state

/-- A division by zero over an application in the same process, and in a session. -/
theorem remote_agrees_with_local_in_process :
    let transport := inProcess RequestId.Supply.tally (Web.App.ofSettings {})
    Reaches nearClient transport (Web.App.ofSettings {}) ∧ nearClient.Accepts " / 1 0 " ∧
      (nearClient.evaluate transport {} " / 1 0 ").1 =
        .ok
          { expression := "/ 1 0", output := "Error: Division by Zero!"
            error := some .divisionByZero } ∧
      (CommandLine.sessionRun
        (Session.run "> " (nearClient.evaluator transport) {} [" / 1 0 "]).1).ending =
          .status 0 := by
  intro transport
  have hreaches := reaches_inProcess RequestId.Supply.tally (Web.App.ofSettings {})
  obtain ⟨hagree, -, -, hsessions⟩ := remote_agrees_with_local hreaches
  have htarget : nearClient.target "/ 1 0" =
      .ok { origin := "http://lispy.local", path := "/eval", query := "query=%2F+1+0" } := rfl
  have haccepts : nearClient.Accepts " / 1 0 " := by
    have htrim : Text.trim " / 1 0 " = "/ 1 0" := by decide
    exact .inr ⟨_, htrim ▸ htarget⟩
  have hlocal : ((Service.ofSettings {}).evaluate " / 1 0 ").answer =
      .ok
        { expression := " / 1 0 ", output := "Error: Division by Zero!"
          error := some .divisionByZero } := rfl
  have hwrites : (Service.ofSettings {}).Writes " / 1 0 " := by
    rw [Service.Writes, hlocal]
    exact fun h => by cases h
  refine ⟨hreaches, haccepts, (hagree _ haccepts {}).1 _ hlocal, ?_⟩
  obtain ⟨-, hend, hstatus⟩ := hsessions "> " [" / 1 0 "] (by simpa using ⟨haccepts, hwrites⟩) {}
  exact (congrArg CommandLine.Run.ending hend).trans hstatus

end PrefixCalc.Remote
