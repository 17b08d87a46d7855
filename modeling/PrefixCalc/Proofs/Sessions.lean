import PrefixCalc.CommandLine.Program

/-!
# What a Session Shows

A session in which every line is answered by a text: a result, or a failure whose message is a
text. What such a session shows is a function of these texts (`Session.shown`), whatever evaluator
gave them, and whatever state it has; so two evaluators that answer every line alike hold the same
session.

## Main results

* `Session.run_of_answers`: the steps of a session are those of its texts.
* `CommandLine.sessionRun_of_answers`: the session ends with status 0, and what it wrote is a
  function of its texts.
-/

namespace PrefixCalc

namespace Session

variable {σ : Type} {evaluate : Evaluator σ} {lines : List String} {texts : String → String}

/-! ### Steps -/

/-- The text that is written for an answer. -/
def answerText? : Except Fault Evaluation → Option String
  | .ok e => some e.output
  | .error (.failure f) =>
    match f.message with
    | .text message => some message
    | _ => none
  | .error (.escape _) => none

theorem respond_of_answerText {answer : Except Fault Evaluation} {text : String}
    (h : answerText? answer = some text) : ∃ log, respond answer = .ok (.text text, log) := by
  cases answer with
  | ok e =>
      cases h
      exact ⟨_, rfl⟩
  | error fault =>
      cases fault with
      | escape x => cases h
      | failure f =>
          obtain ⟨kind, message, details⟩ := f
          cases message with
          | text m =>
              cases h
              exact ⟨_, rfl⟩
          | _ => cases h

/-- The steps for lines that are answered by texts, and those behind the last line. -/
def shown (prompt : String) (written : List String) : List Step :=
  written.flatMap (fun w => [.read prompt, .write (.text w)]) ++ (finish prompt).steps

/-- The evaluator answers each of the lines by its text, in every state. -/
def Answers (evaluate : Evaluator σ) (texts : String → String) (lines : List String) : Prop :=
  ∀ line ∈ lines, ∀ s, answerText? (evaluate s line).1.answer = some (texts line)

theorem runLines_of_answers (h : Answers evaluate texts lines) (prompt : String) (s : σ) :
    (runLines prompt evaluate s lines).1.steps = shown prompt (lines.map texts) ∧
      (runLines prompt evaluate s lines).1.raised = none := by
  induction lines generalizing s with
  | nil => exact ⟨rfl, rfl⟩
  | cons line lines ih =>
      obtain ⟨hline, hlines⟩ := List.forall_mem_cons.mp h
      obtain ⟨log, hrespond⟩ := respond_of_answerText (hline s)
      obtain ⟨hsteps, hraised⟩ := ih hlines (evaluate s line).2
      simp only [runLines, hrespond, after]
      refine ⟨?_, hraised⟩
      rw [hsteps]
      rfl

/-- The banner as steps. -/
def bannerSteps : List Step :=
  banner.map fun line => .write (.text line)

/-- **The steps of a session** whose lines are answered by texts. -/
theorem run_of_answers (h : Answers evaluate texts lines) (prompt : String) (s : σ) :
    (run prompt evaluate s lines).1.steps = bannerSteps ++ shown prompt (lines.map texts) ∧
      (run prompt evaluate s lines).1.raised = none := by
  obtain ⟨hsteps, hraised⟩ := runLines_of_answers h prompt s
  refine ⟨?_, hraised⟩
  rw [run]
  simp only [after, hsteps]
  rfl

/-! ### Texts of steps -/

/-- The steps for lines that are answered by texts, each as text. -/
def shownParts (prompt : String) (written : List String) : List String :=
  written.flatMap (fun w => [prompt, w ++ "\n"]) ++ [prompt, "" ++ "\n"]

/-- All that a session shows whose lines are answered by texts. -/
def shownText (prompt : String) (written : List String) : String :=
  String.join (banner.map (· ++ "\n") ++ shownParts prompt written)

theorem mapM_text_shown (prompt : String) (written : List String) :
    (shown prompt written).mapM Step.text = .ok (shownParts prompt written) := by
  induction written with
  | nil => rfl
  | cons w ws ih =>
      have hcons : shown prompt (w :: ws) =
          .read prompt :: .write (.text w) :: shown prompt ws := rfl
      rw [hcons, List.mapM_cons, List.mapM_cons, ih]
      rfl

theorem text_of_steps {s : Session} {prompt : String} {written : List String}
    (h : s.steps = bannerSteps ++ shown prompt written) :
    s.text = .ok (shownText prompt written) := by
  have hbanner : bannerSteps.mapM Step.text = .ok (banner.map (· ++ "\n")) := rfl
  rw [text, h, List.mapM_append, hbanner, mapM_text_shown]
  rfl

end Session

/-- **The end of a session** whose lines are answered by texts. -/
theorem CommandLine.sessionRun_of_answers {σ : Type} {evaluate : Evaluator σ}
    {lines : List String} {texts : String → String} (h : Session.Answers evaluate texts lines)
    (prompt : String) (s : σ) :
    sessionRun (Session.run prompt evaluate s lines).1 =
      { ending := .status 0, output := Session.shownText prompt (lines.map texts) } := by
  obtain ⟨hsteps, hraised⟩ := Session.run_of_answers h prompt s
  rw [sessionRun, Session.text_of_steps hsteps, hraised]
  rfl

end PrefixCalc
