import PrefixCalc.Remote.Client

/-!
# Sessions

A session shows a banner and then, again and again, a prompt, reads a line and writes what the
line evaluates to, or why it does not. It ends when there are no more lines. Whatever an evaluator
answers as a failure is written; only an escape ends a session early.

## Main definitions

* `Session.respond`: what is written for an answer, and what is logged.
* `Session.run`: a session over a list of lines.
* `Session.hold`: the same session as a loop over reads, which may end in two ways.
-/

namespace PrefixCalc

/-- One thing that a session does where its user can see it. -/
inductive Session.Step where
  /-- Shows the prompt and reads a line. -/
  | read (prompt : String)
  | write (value : Json)

/-- What a session did. -/
structure Session where
  steps : List Session.Step
  log : List Log.Entry := []
  /-- The escape that ended the session, if one did. -/
  raised : Option Escape := none

namespace Session

/-- The lines that a session starts with. -/
def banner : List String :=
  ["Lispy Version 0.0.0.0.1", "Press Ctrl+c to Exit\n"]

/-- The log of sessions. -/
def logger : String := "lispy.repl"

/-- The entry for a failure that is not the user's. -/
def failureEntry (f : Failure) : Log.Entry :=
  { level := .warning, logger, message := "repl.evaluation_failed"
    extra := [("error_type", .text f.kind.word)] }

/-- What is written for an answer, and what is logged: the text of a result or the message of a
failure, which is logged unless the line was no expression. -/
def respond : Except Fault Evaluation → Except Escape (Json × List Log.Entry)
  | .ok e => .ok (.text e.output, [])
  | .error (.failure f) => .ok (f.message, if f.kind = .parse then [] else [failureEntry f])
  | .error (.escape e) => .error e

/-- The end of a session: a last prompt, behind which nothing is read, and an empty text. -/
def finish (prompt : String) : Session :=
  { steps := [.read prompt, .write (.text "")] }

/-- A session that starts with other steps and log entries. -/
def after (s : Session) (steps : List Step) (log : List Log.Entry) : Session :=
  { s with steps := steps ++ s.steps, log := log ++ s.log }

/-- A session without its banner. -/
def runLines {σ : Type} (prompt : String) (evaluate : Evaluator σ) :
    σ → List String → Session × σ
  | s, [] => (finish prompt, s)
  | s, line :: lines =>
    let (outcome, s) := evaluate s line
    match respond outcome.answer with
    | .error e => ({ steps := [.read prompt], log := outcome.log, raised := some e }, s)
    | .ok (written, log) =>
      let (rest, s) := runLines prompt evaluate s lines
      (rest.after [.read prompt, .write written] (outcome.log ++ log), s)

/-- A session over a list of lines. -/
def run {σ : Type} (prompt : String) (evaluate : Evaluator σ) (s : σ) (lines : List String) :
    Session × σ :=
  let (session, s) := runLines prompt evaluate s lines
  (session.after (banner.map fun line => .write (.text line)) [], s)

/-! ### Reading -/

/-- Why a read brings no line. -/
inductive Halt where
  /-- The input is at its end. -/
  | ended
  /-- The user has interrupted the read. -/
  | interrupted
  deriving DecidableEq, Repr

/-- What a session reads from: lines, and why the read behind the last of them brings none. -/
structure Input where
  lines : List String
  halt : Halt := .ended
  deriving DecidableEq, Repr

/-- A read: a line and what is left behind it, or why there is none. -/
def Input.read : Input → Except Halt (String × Input)
  | ⟨line :: lines, halt⟩ => .ok (line, ⟨lines, halt⟩)
  | ⟨[], halt⟩ => .error halt

theorem Input.length_lt_of_read {i rest : Input} {line : String}
    (h : i.read = .ok (line, rest)) : rest.lines.length < i.lines.length := by
  obtain ⟨lines, halt⟩ := i
  cases lines with
  | nil => cases h
  | cons first lines =>
      cases h
      exact Nat.lt_succ_self _

/-- The end of a session for a reason; both reasons end it alike. -/
def halted (prompt : String) : Halt → Session
  | .ended => finish prompt
  | .interrupted => finish prompt

/-- A session without its banner, which reads until a read brings no line. -/
def holdLines {σ : Type} (prompt : String) (evaluate : Evaluator σ) (s : σ) (i : Input) :
    Session × σ :=
  match _ : i.read with
  | .error halt => (halted prompt halt, s)
  | .ok (line, rest) =>
    let (outcome, s) := evaluate s line
    match respond outcome.answer with
    | .error e => ({ steps := [.read prompt], log := outcome.log, raised := some e }, s)
    | .ok (written, log) =>
      let (session, s) := holdLines prompt evaluate s rest
      (session.after [.read prompt, .write written] (outcome.log ++ log), s)
termination_by i.lines.length
decreasing_by exact Input.length_lt_of_read ‹_›

/-- A session that reads from an input. -/
def hold {σ : Type} (prompt : String) (evaluate : Evaluator σ) (s : σ) (i : Input) :
    Session × σ :=
  let (session, s) := holdLines prompt evaluate s i
  (session.after (banner.map fun line => .write (.text line)) [], s)

/-- What a session returns: the status of success, unless an escape ended it. -/
def result (s : Session) : Except Escape Nat :=
  match s.raised with
  | some e => .error e
  | none => .ok 0

/-! ### What the user sees -/

/-- The prompt of a step that reads. -/
def Step.prompt? : Step → Option String
  | .read prompt => some prompt
  | .write _ => none

/-- The value of a step that writes. -/
def Step.written? : Step → Option Json
  | .read _ => none
  | .write value => some value

/-- A step as text: a prompt as it is, and a written value as a line. Half of a character that
stands alone is shown escaped, as on the stream for errors; a strict stream would refuse it. -/
def Step.text : Step → Except Unwritable String
  | .read prompt => .ok prompt
  | .write value => value.line.map (· ++ "\n")

/-- The prompts that a session showed. -/
def prompts (s : Session) : List String :=
  s.steps.filterMap Step.prompt?

/-- The values that a session wrote. -/
def output (s : Session) : List Json :=
  s.steps.filterMap Step.written?

/-- All that a session showed. -/
def text (s : Session) : Except Unwritable String := do
  return String.join (← s.steps.mapM Step.text)

end Session

end PrefixCalc
