import PrefixCalc.Proofs.DeliveryClasses
import PrefixCalc.Proofs.SessionTraces

/-!
# The Front Ends Show the Same

An expression can be evaluated by the program on its own, in a session, and, where the evaluator is
the service, by the tool that an assistant is offered. They handle failures in different places, but
what they show is one thing: the output of a result, or the message of a failure as a line.

That there is such a line is the point at which the evaluators differ. A failure of the service has
a text as its message; a failure of a remote evaluator may have any value that was read from its
answer, and what is read can be shown.

## Main results

* `Remote.Client.exists_line_of_evaluate`: a remote failure can be reported.
* `CommandLine.runOptions_eq`: the program runs with the evaluator that was chosen.
* `Session.exists_steps_of_answered`: where in a session a line is answered.
* `CommandLine.front_ends_agree`: what is shown for an expression.
-/

namespace PrefixCalc

/-- The tool answers by the output of what the service answers. -/
theorem Service.evaluateToText_answer (s : Service) (text : String) :
    (s.evaluateToText text).answer = (s.evaluate text).answer.map Evaluation.output := by
  rw [evaluateToText]

/-! ### Messages as lines -/

/-- The message of a failure of the service can be written, since it is a text. -/
theorem Service.exists_line_of_answer {s : Service} {text : String} {f : Failure}
    (h : (s.evaluate text).answer = .error (.failure f)) :
    ∃ line, f.message.line = .ok line := by
  obtain ⟨hrefusal, -⟩ := isRefusal_of_answer h
  obtain ⟨message, hmessage⟩ := hrefusal.exists_message
  rw [hmessage]
  exact ⟨message, rfl⟩

namespace Remote

/-- The message that a body explains a failure by can be written. -/
theorem exists_line_messageOf {body : String} {j : Json} (h : readBody body = .ok j) :
    ∃ line, (messageOf j).line = .ok line := by
  have hshown : ∃ text, j.shown = .ok text := by
    unfold readBody at h
    split at h
    · exact Json.exists_shown_of_read h
    · cases h
  unfold messageOf
  split
  · next error herror =>
    cases hmessage : error.get? "message" with
    | none => exact ⟨_, rfl⟩
    | some message =>
        have herror := Json.exists_shown_of_get hshown herror
        exact Json.exists_line_of_shown (Json.exists_shown_of_get herror hmessage)
  · exact ⟨_, rfl⟩

theorem exists_line_of_accept {url : Web.Url} {d : Delivery} {f : Failure}
    (h : accept url d = .error (.failure f)) : ∃ line, f.message.line = .ok line := by
  cases d with
  | failed =>
      cases h
      exact ⟨_, rfl⟩
  | escaped e => cases h
  | response status body =>
      rw [accept] at h
      split_ifs at h
      · cases h
      · rw [resultOf] at h
        split at h
        · cases h
          exact ⟨_, rfl⟩
        · cases h
        · split at h
          · cases h
            exact ⟨_, rfl⟩
          · cases h
      · rw [reported] at h
        split at h
        · next hread =>
          cases h
          exact exists_line_messageOf hread
        · cases h
          exact ⟨_, rfl⟩
        · cases h

/-- **A failure of a client can be reported**, whatever came back to it. -/
theorem Client.exists_line_of_evaluate {σ : Type} {c : Client} {t : Transport σ} {s : σ}
    {text : String} {f : Failure} (h : (c.evaluate t s text).1 = .error (.failure f)) :
    ∃ line, f.message.line = .ok line := by
  cases hempty : (Text.trim text).isEmpty with
  | true =>
      rw [evaluate_of_empty hempty] at h
      cases h
      exact ⟨_, rfl⟩
  | false =>
      cases htarget : c.target (Text.trim text) with
      | error r =>
          rw [evaluate_of_refused hempty htarget] at h
          cases h
      | ok url =>
          rw [evaluate_of_sent hempty htarget] at h
          exact exists_line_of_accept h

end Remote

/-! ### Lines of a session -/

namespace Session

variable {σ : Type} {evaluate : Evaluator σ} {s : σ} {before : List String}

/-- Behind lines that do not escape, a line is read and its answer written. -/
theorem exists_steps_of_answered (prompt : String) (h : NoneEscapes (outcomes evaluate s before))
    {line : String} {w : Json}
    (hw : answered? (evaluate (stateAfter evaluate s before) line).1.answer = some w)
    (behind : List String) :
    ∃ later, (run prompt evaluate s (before ++ line :: behind)).1.steps =
      bannerSteps ++ (outcomes evaluate s before).flatMap (turn prompt) ++
        .read prompt :: .write w :: later := by
  have hline : ∀ e, (evaluate (stateAfter evaluate s before) line).1.answer ≠
      .error (.escape e) := by
    intro e he
    rw [he] at hw
    cases hw
  obtain ⟨v, hv, hrespond⟩ := respond_of_answered hline
  obtain rfl : w = v := Option.some.inj (hw.symm.trans hv)
  rw [run, runLines_append prompt h]
  simp only [runLines, hrespond, after]
  exact ⟨_, (List.append_assoc _ _ _).symm⟩

/-- A session prints a text for a line: wherever the line is read in the given state, behind lines
that do not escape, what is written next prints as that text. -/
def Prints (evaluate : Evaluator σ) (s : σ) (line printed : String) : Prop :=
  ∀ prompt start before behind, NoneEscapes (outcomes evaluate start before) →
    stateAfter evaluate start before = s →
    ∃ w later, (run prompt evaluate start (before ++ line :: behind)).1.steps =
        bannerSteps ++ (outcomes evaluate start before).flatMap (turn prompt) ++
          .read prompt :: .write w :: later ∧
      (Step.write w).text = .ok printed

theorem prints_of_answered {line : String} {w : Json}
    (hw : answered? (evaluate s line).1.answer = some w) {text : String}
    (htext : w.line = .ok text) : Prints evaluate s line (text ++ "\n") := by
  intro prompt start before behind hbefore hstate
  subst hstate
  obtain ⟨later, hsteps⟩ := exists_steps_of_answered prompt hbefore hw behind
  refine ⟨w, later, hsteps, ?_⟩
  rw [Step.text, htext]
  rfl

end Session

/-! ### The program -/

namespace CommandLine

variable {σ : Type}

/-- The evaluator that the options choose, if the settings say of one. -/
def chosen (t : Remote.Transport σ) (settings : Settings) (o : Options) :
    Except Failure (Evaluator σ) :=
  if o.remote then (Remote.Client.ofSettings settings).map fun c => c.evaluator t
  else .ok fun s expression => ((Service.ofSettings settings).evaluate expression, s)

/-- **The program runs with the evaluator that was chosen**, or reports that there is none. -/
theorem runOptions_eq (t : Remote.Transport σ) (settings : Settings) (o : Options) (s : σ)
    (input : String) :
    runOptions t settings o s input =
      match chosen t settings o with
      | .error f => (oneRun (.error (.failure f)), s)
      | .ok evaluate => runWith settings o evaluate s input := by
  rw [runOptions, chosen]
  split_ifs
  · cases Remote.Client.ofSettings settings <;> rfl
  · rfl

/-- What can have been chosen. -/
theorem chosen_eq_ok {t : Remote.Transport σ} {settings : Settings} {o : Options}
    {evaluate : Evaluator σ} (h : chosen t settings o = .ok evaluate) :
    (∃ c : Remote.Client, o.remote = true ∧ evaluate = c.evaluator t) ∨
      (o.remote = false ∧
        evaluate = fun s expression => ((Service.ofSettings settings).evaluate expression, s)) := by
  unfold chosen at h
  split_ifs at h with hremote
  · cases hclient : Remote.Client.ofSettings settings with
    | error f =>
        rw [hclient] at h
        cases h
    | ok c =>
        rw [hclient] at h
        exact .inl ⟨c, hremote, (Except.ok.inj h).symm⟩
  · exact .inr ⟨Bool.eq_false_of_not_eq_true hremote, (Except.ok.inj h).symm⟩

/-- A failure of the evaluator that was chosen can be reported. -/
theorem exists_line_of_chosen {t : Remote.Transport σ} {settings : Settings} {o : Options}
    {evaluate : Evaluator σ} (h : chosen t settings o = .ok evaluate) {s : σ} {text : String}
    {f : Failure} (hf : (evaluate s text).1.answer = .error (.failure f)) :
    ∃ line, f.message.line = .ok line := by
  rcases chosen_eq_ok h with ⟨c, -, heq⟩ | ⟨-, heq⟩
  · rw [heq, c.evaluator_answer] at hf
    exact Remote.Client.exists_line_of_evaluate hf
  · simp only [heq] at hf
    exact Service.exists_line_of_answer hf

/-- A run for one expression is decided by its answer. -/
theorem run_of_expression {t : Remote.Transport σ} {settings : Settings} {arguments : List String}
    {o : Options} (harguments : Options.ofArguments arguments = .ok o) {x : String}
    (hx : o.expression = some x) {evaluate : Evaluator σ}
    (hchosen : chosen t settings o = .ok evaluate) (s : σ) (input : String) :
    (run t (.ok settings) arguments s input).1 = oneRun (evaluate s x).1.answer := by
  have hrun : run t (.ok settings) arguments s input = runWith settings o evaluate s input := by
    simp only [run, harguments, runOptions_eq, hchosen]
  rw [hrun, runWith]
  simp only [hx]

theorem oneRun_of_failure {f : Failure} {text : String} (h : f.message.line = .ok text) :
    oneRun (.error (.failure f)) =
      { ending := .status 1, output := "", errors := text ++ "\n" } := by
  rw [oneRun, writeLine, h]
  rfl

/-- **The front ends show the same** for an expression that is given as an argument, whichever
evaluator is chosen.

Of a result the program prints the output, and of a failure it prints the message to the errors; its
status says which of the two it was, and nothing else is printed. A session prints the same text for
the expression as a line. And if the evaluator is the service, the tool answers by that same output,
or fails as the service does; its failures are those of texts that are no expressions. -/
theorem front_ends_agree (t : Remote.Transport σ) (settings : Settings) {arguments : List String}
    {o : Options} (harguments : Options.ofArguments arguments = .ok o) {x : String}
    (hx : o.expression = some x) {evaluate : Evaluator σ}
    (hchosen : chosen t settings o = .ok evaluate) (s : σ) (input : String) :
    let answer := (evaluate s x).1.answer
    let once := (run t (.ok settings) arguments s input).1
    (∀ e, answer = .ok e →
      once = { ending := .status 0, output := e.output ++ "\n", errors := "" } ∧
        Session.Prints evaluate s x once.output) ∧
    (∀ f, answer = .error (.failure f) →
      ∃ text, f.message.line = .ok text ∧
        once = { ending := .status 1, output := "", errors := text ++ "\n" } ∧
        Session.Prints evaluate s x once.errors) ∧
    (o.remote = false →
      let service := Service.ofSettings settings
      let tool := (service.evaluateToText x).answer
      answer = (service.evaluate x).answer ∧
      (∀ e, (service.evaluate x).answer = .ok e → tool = .ok e.output) ∧
      (∀ f, (service.evaluate x).answer = .error (.failure f) →
        tool = .error (.failure f) ∧ f.kind = .parse) ∧
      ∀ e, (service.evaluate x).answer = .error (.escape e) → tool = .error (.escape e)) := by
  intro answer once
  have honce : once = oneRun answer := run_of_expression harguments hx hchosen s input
  refine ⟨?_, ?_, ?_⟩
  · intro e he
    have hshown : once = { ending := .status 0, output := e.output ++ "\n", errors := "" } := by
      rw [honce, he]
      rfl
    refine ⟨hshown, ?_⟩
    rw [hshown]
    exact Session.prints_of_answered (congrArg Session.answered? he) rfl
  · intro f hf
    obtain ⟨text, htext⟩ := exists_line_of_chosen hchosen hf
    have hshown : once = { ending := .status 1, output := "", errors := text ++ "\n" } := by
      rw [honce, hf, oneRun_of_failure htext]
    refine ⟨text, htext, hshown, ?_⟩
    rw [hshown]
    exact Session.prints_of_answered (congrArg Session.answered? hf) htext
  · intro hlocal service tool
    -- the tool takes the output of the very outcome that the other two are told
    obtain ⟨-, hevaluate⟩ := (chosen_eq_ok hchosen).resolve_left (by simp [hlocal])
    have htool : tool = (service.evaluate x).answer.map Evaluation.output :=
      service.evaluateToText_answer x
    refine ⟨?_, ?_, ?_, ?_⟩
    · simp only [answer, service, hevaluate]
    · intro e he
      rw [htool, he]
      rfl
    · intro f hf
      rw [htool, hf]
      exact ⟨rfl, (Service.isRefusal_of_answer hf).1.kind⟩
    · intro e he
      rw [htool, he]
      rfl

/-- A remote evaluator that explains its failure by a number, and a tool that is given a text that
is no expression. -/
theorem front_ends_agree_on_two_failures :
    let settings : Settings := { remoteUrl := some "http://h" }
    let client : Remote.Client := { baseUrl := "http://h" }
    let script : Remote.Script :=
      { pending := [.response 418 "\x7b\"error\": \x7b\"message\": 7\x7d\x7d"] }
    let refused : Failure :=
      .ofText .parse "<stdin>:1:2: error: expected operator" [("column", .int 2)]
    Options.ofArguments ["--remote", "-e", "+ 1 2"] =
        .ok { remote := true, expression := some "+ 1 2" } ∧
      (run Remote.Script.transport (.ok settings) ["--remote", "-e", "+ 1 2"] script "").1 =
        { ending := .status 1, errors := "7\n" } ∧
      Session.Prints (client.evaluator Remote.Script.transport) script "+ 1 2" "7\n" ∧
      Options.ofArguments ["--eval", "("] = .ok { expression := some "(" } ∧
      ((Service.ofSettings settings).evaluateToText "(").answer = .error (.failure refused) := by
  intro settings client script refused
  have hfar : Options.ofArguments ["--remote", "-e", "+ 1 2"] =
      .ok { remote := true, expression := some "+ 1 2" } := by decide
  have hnear : Options.ofArguments ["--eval", "("] = .ok { expression := some "(" } := by decide
  have hchosen : chosen Remote.Script.transport settings
      { remote := true, expression := some "+ 1 2" } =
        .ok (client.evaluator Remote.Script.transport) := rfl
  have hanswer : ((client.evaluator Remote.Script.transport) script "+ 1 2").1.answer =
      .error (.failure { kind := .remote, message := .int 7 }) := by
    have hurl : Remote.Client.target { baseUrl := "http://h" } (Text.trim "+ 1 2") =
        .ok { origin := "http://h", path := "/eval", query := "query=%2B+1+2" } := by decide
    rw [client.evaluator_answer, Remote.Client.evaluate_of_sent (by decide) hurl]
    rfl
  obtain ⟨-, hshown, -⟩ :=
    front_ends_agree Remote.Script.transport settings hfar rfl hchosen script ""
  obtain ⟨-, -, hlocal⟩ :=
    front_ends_agree Remote.Script.transport settings hnear rfl rfl script ""
  obtain ⟨text, htext, honce, hprints⟩ := hshown _ hanswer
  have hseven : Decimal.text 7 = "7" := by decide
  simp only [Json.line, Json.shown] at htext
  obtain rfl : "7" = text := hseven.symm.trans (Decimal.write_eq_ok_iff.mp htext).2
  rw [honce] at hprints
  obtain ⟨-, -, hrefused, -⟩ := hlocal rfl
  exact ⟨hfar, honce, hprints, hnear, (hrefused refused rfl).1⟩

end CommandLine

end PrefixCalc
