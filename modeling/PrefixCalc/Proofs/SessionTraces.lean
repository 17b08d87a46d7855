import PrefixCalc.Proofs.Sessions

/-!
# The Trace of a Session

A session evaluates its lines one after the other, each in the state that the one before it left
behind, so that it has a list of outcomes (`Session.outcomes`). Its trace, what it reads, writes
and logs, is that of one turn for each outcome, in order, and each turn depends on its outcome
alone. Nothing is assumed of the evaluator: a line may be answered by a result or by a failure of
any kind, whose message need not be a text, and it may escape.

The step is the turn of one line that does not escape; by induction the lines before any rest of
the input become their turns, with the rest held behind them (`Session.runLines_append`). What is
left is the end of the input or the first line that escapes.

## Main results

* `Session.hold_eq_run`: how the input ends makes no difference.
* `Session.run_of_answered`, `Session.run_of_escape`: sessions without an escape, and with one.
* `Session.session_follows_outcomes`: what a session returns, reads, writes and logs.
-/

namespace PrefixCalc.Session

variable {σ : Type} {evaluate : Evaluator σ} {s : σ} {before : List String}

/-! ### The two ends of an input -/

theorem holdLines_eq_runLines (prompt : String) (evaluate : Evaluator σ) (s : σ) (i : Input) :
    holdLines prompt evaluate s i = runLines prompt evaluate s i.lines := by
  obtain ⟨lines, halt⟩ := i
  induction lines generalizing s with
  | nil =>
      rw [holdLines]
      cases halt <;> rfl
  | cons line lines ih =>
      rw [holdLines]
      simp only [Input.read, runLines, ih]

/-- **A session ends alike however its input ends.** -/
theorem hold_eq_run (prompt : String) (evaluate : Evaluator σ) (s : σ) (i : Input) :
    hold prompt evaluate s i = run prompt evaluate s i.lines := by
  rw [hold, run, holdLines_eq_runLines]

/-! ### Outcomes and turns -/

/-- The outcomes of lines that are evaluated one after the other. -/
def outcomes (evaluate : Evaluator σ) : σ → List String → List (Outcome Evaluation)
  | _, [] => []
  | s, line :: lines => (evaluate s line).1 :: outcomes evaluate (evaluate s line).2 lines

/-- The state behind lines that are evaluated one after the other. -/
def stateAfter (evaluate : Evaluator σ) (s : σ) (lines : List String) : σ :=
  lines.foldl (fun s line => (evaluate s line).2) s

theorem length_outcomes (evaluate : Evaluator σ) (s : σ) (lines : List String) :
    (outcomes evaluate s lines).length = lines.length := by
  induction lines generalizing s with
  | nil => rfl
  | cons line lines ih => rw [outcomes, List.length_cons, ih, List.length_cons]

/-- What a line is answered by: the text of a result or the message of a failure. -/
def answered? : Except Fault Evaluation → Option Json
  | .ok e => some (.text e.output)
  | .error (.failure f) => some f.message
  | .error (.escape _) => none

/-- The warnings about an answer: one, which names the kind, for a failure that is not that of a
text that is no expression. -/
def warnings : Except Fault Evaluation → List Log.Entry
  | .error (.failure f) =>
    if f.kind = .parse then []
    else
      [{ level := .warning, logger := "lispy.repl", message := "repl.evaluation_failed"
         extra := [("error_type", .text f.kind.word)] }]
  | _ => []

/-- A turn: a line is read, and what it is answered by is written. -/
def turn (prompt : String) (o : Outcome Evaluation) : List Step :=
  .read prompt :: (answered? o.answer).toList.map .write

/-- What is logged in a turn. -/
def turnLog (o : Outcome Evaluation) : List Log.Entry :=
  o.log ++ warnings o.answer

/-- No line escapes. -/
def NoneEscapes (os : List (Outcome Evaluation)) : Prop :=
  ∀ o ∈ os, ∀ e, o.answer ≠ .error (.escape e)

/-- An answer that is no escape is written, with the warnings about it logged. -/
theorem respond_of_answered {answer : Except Fault Evaluation}
    (h : ∀ e, answer ≠ .error (.escape e)) :
    ∃ w, answered? answer = some w ∧ respond answer = .ok (w, warnings answer) := by
  cases answer with
  | ok e => exact ⟨_, rfl, rfl⟩
  | error fault =>
      cases fault with
      | failure f => exact ⟨_, rfl, rfl⟩
      | escape e => exact absurd rfl (h e)

/-- **Lines that do not escape** become their turns, whatever follows them. -/
theorem runLines_append (prompt : String) (h : NoneEscapes (outcomes evaluate s before))
    (rest : List String) :
    runLines prompt evaluate s (before ++ rest) =
      let os := outcomes evaluate s before
      let later := runLines prompt evaluate (stateAfter evaluate s before) rest
      (later.1.after (os.flatMap (turn prompt)) (os.flatMap turnLog), later.2) := by
  induction before generalizing s with
  | nil => rfl
  | cons line before ih =>
      rw [outcomes, NoneEscapes, List.forall_mem_cons] at h
      obtain ⟨hline, hbefore⟩ := h
      obtain ⟨w, hw, hrespond⟩ := respond_of_answered hline
      rw [List.cons_append, runLines]
      simp only [hrespond, ih hbefore]
      simp only [outcomes, stateAfter, after, turn, turnLog, hw, List.flatMap_cons,
        List.foldl_cons, Option.toList_some, List.map_cons, List.map_nil, List.append_assoc,
        List.cons_append, List.nil_append]

/-! ### Traces -/

/-- The trace behind the banner, of a session without an escape. -/
theorem run_of_answered (prompt : String) {lines : List String}
    (h : NoneEscapes (outcomes evaluate s lines)) :
    run prompt evaluate s lines =
      let os := outcomes evaluate s lines
      ({ steps := bannerSteps ++ os.flatMap (turn prompt) ++ [.read prompt, .write (.text "")]
         log := os.flatMap turnLog }, stateAfter evaluate s lines) := by
  have hlines := runLines_append prompt h []
  rw [List.append_nil] at hlines
  rw [run, hlines]
  simp [runLines, after, finish, bannerSteps]

/-- The trace behind the banner, of a session that is ended by the first line that escapes. -/
theorem run_of_escape (prompt : String) (h : NoneEscapes (outcomes evaluate s before))
    {line : String} {e : Escape}
    (hline : (evaluate (stateAfter evaluate s before) line).1.answer = .error (.escape e))
    (behind : List String) :
    run prompt evaluate s (before ++ line :: behind) =
      let os := outcomes evaluate s before
      let last := evaluate (stateAfter evaluate s before) line
      ({ steps := bannerSteps ++ os.flatMap (turn prompt) ++ [.read prompt]
         log := os.flatMap turnLog ++ last.1.log, raised := some e }, last.2) := by
  rw [run, runLines_append prompt h]
  simp [runLines, hline, respond, after, bannerSteps]

theorem prompts_turns (prompt : String) (os : List (Outcome Evaluation)) :
    (os.flatMap (turn prompt)).filterMap Step.prompt? = List.replicate os.length prompt := by
  induction os with
  | nil => rfl
  | cons o os ih =>
      have hturn : (turn prompt o).filterMap Step.prompt? = [prompt] := by
        rw [turn]
        cases answered? o.answer <;> rfl
      rw [List.flatMap_cons, List.filterMap_append, hturn, ih, List.length_cons,
        List.replicate_succ, List.singleton_append]

theorem written_turns (prompt : String) {os : List (Outcome Evaluation)} (h : NoneEscapes os) :
    ((os.flatMap (turn prompt)).filterMap Step.written?).map some =
      os.map fun o => answered? o.answer := by
  induction os with
  | nil => rfl
  | cons o os ih =>
      rw [NoneEscapes, List.forall_mem_cons] at h
      obtain ⟨w, hw, -⟩ := respond_of_answered h.1
      have hturn : (turn prompt o).filterMap Step.written? = [w] := by
        rw [turn, hw]
        rfl
      rw [List.flatMap_cons, List.filterMap_append, hturn, List.map_append, ih h.2,
        List.map_singleton, List.map_cons, hw, List.singleton_append]

/-! ### What the user sees of a trace -/

variable {prompt : String} {os : List (Outcome Evaluation)} {session : Session} {rest : List Step}

theorem prompts_of_steps (h : session.steps = bannerSteps ++ os.flatMap (turn prompt) ++ rest) :
    session.prompts = List.replicate os.length prompt ++ rest.filterMap Step.prompt? := by
  have hbanner : bannerSteps.filterMap Step.prompt? = [] := rfl
  rw [prompts, h, List.filterMap_append, List.filterMap_append, hbanner, List.nil_append,
    prompts_turns]

theorem output_of_steps (h : session.steps = bannerSteps ++ os.flatMap (turn prompt) ++ rest)
    (hos : NoneEscapes os) :
    session.output.map some =
      banner.map (fun line => some (.text line)) ++ os.map (fun o => answered? o.answer) ++
        (rest.filterMap Step.written?).map some := by
  have hbanner : (bannerSteps.filterMap Step.written?).map some =
      banner.map fun line => some (.text line) := rfl
  rw [output, h, List.filterMap_append, List.filterMap_append, List.map_append, List.map_append,
    hbanner, written_turns prompt hos]

/-- **A session follows the outcomes of its lines**, whatever evaluates them and however its input
ends.

If no line escapes, the session returns the status of success. It reads once for each line and
once more, always with its prompt; it writes the two lines of its banner, then for each line what
the line is answered by, and at last an empty text; and it logs, besides what the evaluator does,
one warning for each failure that is not that of a text that is no expression. The first line that
escapes ends the session: the escape passes, and behind the turns of the lines before it nothing is
written, read or evaluated. What is written for a line is a function of the outcome of that
line. -/
theorem session_follows_outcomes (prompt : String) (evaluate : Evaluator σ) (s : σ) (i : Input) :
    let held := hold prompt evaluate s i
    let version := Json.text "Lispy Version 0.0.0.0.1"
    let invitation := Json.text "Press Ctrl+c to Exit\n"
    (NoneEscapes (outcomes evaluate s i.lines) →
      let os := outcomes evaluate s i.lines
      held.1.result = .ok 0 ∧
      held.1.steps = [.write version, .write invitation] ++ os.flatMap (turn prompt) ++
        [.read prompt, .write (.text "")] ∧
      held.1.prompts = List.replicate (i.lines.length + 1) prompt ∧
      held.1.output.map some =
        [some version, some invitation] ++ os.map (fun o => answered? o.answer) ++
          [some (.text "")] ∧
      held.1.log = os.flatMap (fun o => o.log ++ warnings o.answer) ∧
      held.2 = stateAfter evaluate s i.lines) ∧
    ∀ before line behind e, i.lines = before ++ line :: behind →
      NoneEscapes (outcomes evaluate s before) →
      (evaluate (stateAfter evaluate s before) line).1.answer = .error (.escape e) →
      let os := outcomes evaluate s before
      let last := evaluate (stateAfter evaluate s before) line
      held.1.result = .error e ∧
      held.1.steps = [.write version, .write invitation] ++ os.flatMap (turn prompt) ++
        [.read prompt] ∧
      held.1.prompts = List.replicate (before.length + 1) prompt ∧
      held.1.output.map some =
        [some version, some invitation] ++ os.map (fun o => answered? o.answer) ∧
      held.1.log = os.flatMap (fun o => o.log ++ warnings o.answer) ++ last.1.log ∧
      held.2 = last.2 := by
  intro held version invitation
  refine ⟨?_, ?_⟩
  · intro h os
    have hheld : held = _ := (hold_eq_run prompt evaluate s i).trans (run_of_answered prompt h)
    have hsteps : held.1.steps = _ := congrArg (fun held => held.1.steps) hheld
    refine ⟨?_, hsteps, ?_, output_of_steps hsteps h, ?_, ?_⟩
    · rw [hheld]
      rfl
    · rw [prompts_of_steps hsteps, length_outcomes, List.replicate_succ']
      rfl
    · rw [hheld]
      rfl
    · rw [hheld]
  · intro before line behind e hlines h hline os last
    have hheld : held = _ :=
      (hlines ▸ hold_eq_run prompt evaluate s i).trans (run_of_escape prompt h hline behind)
    have hsteps : held.1.steps = _ := congrArg (fun held => held.1.steps) hheld
    refine ⟨?_, hsteps, ?_, ?_, ?_, ?_⟩
    · rw [hheld]
      rfl
    · rw [prompts_of_steps hsteps, length_outcomes, List.replicate_succ']
      rfl
    · exact (output_of_steps hsteps h).trans (List.append_nil _)
    · rw [hheld]
      rfl
    · rw [hheld]

/-- Answers that are given one after the other, whatever the lines are. -/
def reciter : Evaluator (List (Except Fault Evaluation)) := fun answers _ =>
  match answers with
  | [] => ({ answer := .error (.escape .tooDeep) }, [])
  | answer :: answers => ({ answer }, answers)

/-- A result, a text that is no expression and a remote failure; and an escape behind them. -/
theorem session_follows_three_outcomes :
    let answers : List (Except Fault Evaluation) :=
      [.ok { expression := "+ 1", output := "1", value := some 1 },
        .error (.failure Service.emptyExpression), .error (.failure Remote.unavailable)]
    let three := (hold "> " reciter answers ⟨["+ 1", "", "+ 2"], .interrupted⟩).1
    let more := (hold "> " reciter answers ⟨["+ 1", "", "+ 2", "+ 3", "+ 4"], .ended⟩).1
    three.result = .ok 0 ∧ three.prompts = ["> ", "> ", "> ", "> "] ∧
      three.log = [failureEntry Remote.unavailable] ∧
      more.result = .error .tooDeep ∧ more.prompts = ["> ", "> ", "> ", "> "] := by
  intro answers three more
  have hanswered : NoneEscapes (outcomes reciter answers ["+ 1", "", "+ 2"]) := by
    simp [NoneEscapes, outcomes, reciter, answers]
  obtain ⟨hthree, -⟩ :=
    session_follows_outcomes "> " reciter answers ⟨["+ 1", "", "+ 2"], .interrupted⟩
  obtain ⟨-, hmore⟩ :=
    session_follows_outcomes "> " reciter answers ⟨["+ 1", "", "+ 2", "+ 3", "+ 4"], .ended⟩
  obtain ⟨hresult, -, hprompts, -, hlog, -⟩ := hthree hanswered
  obtain ⟨hescape, -, hread, -⟩ := hmore ["+ 1", "", "+ 2"] "+ 3" ["+ 4"] .tooDeep rfl hanswered rfl
  exact ⟨hresult, hprompts, hlog, hescape, hread⟩

end PrefixCalc.Session
