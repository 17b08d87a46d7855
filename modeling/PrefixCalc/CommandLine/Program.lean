import PrefixCalc.CommandLine.Arguments
import PrefixCalc.Session
import PrefixCalc.Settings.Load

/-!
# The program

The program loads its settings, reads its arguments, chooses the local or the remote evaluator,
and then evaluates one expression or holds a session over its input.

## Main definitions

* `Run`: what a run of the program leaves.
* `run`: the program.
-/

namespace PrefixCalc.CommandLine

/-- How a run of the program ends. -/
inductive Ending where
  /-- With a status. -/
  | status (code : Nat)
  /-- There are no settings. -/
  | settings (e : Settings.LoadError)
  | escape (e : Escape)

/-- What a run of the program leaves: how it ended, and what it wrote. -/
structure Run where
  ending : Ending
  output : String := ""
  errors : String := ""

/-! ### Help -/

/-- The name of the program. -/
def programName : String := "repl.py"

/-- The line that shows the options. -/
def usage : String :=
  "usage: " ++ programName ++ " [-h] [--prompt PROMPT] [--remote] [-e EXPRESSION]\n"

/-- The answer to a request for help. -/
def helpText : String :=
  usage ++ "\nInteractive prefix arithmetic evaluator.\n\noptions:\n" ++
    "  -h, --help            show this help message and exit\n" ++
    "  --prompt PROMPT       Prompt shown before each line.\n" ++
    "  --remote              Evaluate through the HTTP evaluator configured by\n" ++
    "                        EVAL_HTTP_BASE_URL.\n" ++
    "  -e EXPRESSION, --eval EXPRESSION\n" ++
    "                        Evaluate one expression, print it and exit.\n"

/-- The status of a run whose arguments are wrong. -/
def usageStatus : Nat := 2

/-- The run for arguments that stop it. -/
def Stop.run : Stop → Run
  | .help => { ending := .status 0, output := helpText }
  | .problem p =>
    { ending := .status usageStatus
      errors := usage ++ programName ++ ": error: " ++ p.message ++ "\n" }

/-! ### Running -/

/-- A value written as a line, or the escape of one that cannot be written. -/
def writeLine (j : Json) : Except Escape String :=
  (j.line.map (· ++ "\n")).mapError .unwritable

/-- The run of one expression, for its answer: a result goes to the output and the message of a
failure to the errors. -/
def oneRun : Except Fault Evaluation → Run
  | .ok e => { ending := .status 0, output := e.output ++ "\n" }
  | .error (.escape e) => { ending := .escape e }
  | .error (.failure f) =>
    match writeLine f.message with
    | .ok line => { ending := .status 1, errors := line }
    | .error e => { ending := .escape e }

/-- The run of a session. -/
def sessionRun (s : Session) : Run :=
  match s.text with
  | .error u => { ending := .escape (.unwritable u) }
  | .ok output => { ending := s.raised.elim (.status 0) .escape, output }

/-- The lines of an input; the end of the last one may be missing. -/
def lines (input : String) : List String :=
  let parts := Text.splitAt '\n' input.toList
  let parts := if parts.getLast? = some [] then parts.dropLast else parts
  parts.map String.ofList

/-- The run of the program with an evaluator. -/
def runWith {σ : Type} (settings : Settings) (o : Options) (evaluate : Evaluator σ) (s : σ)
    (input : String) : Run × σ :=
  match o.expression with
  | some expression =>
    let (outcome, s) := evaluate s expression
    (oneRun outcome.answer, s)
  | none =>
    let (session, s) :=
      Session.run (o.prompt.getD settings.replPrompt) evaluate s (lines input)
    (sessionRun session, s)

/-- The run of the program with the evaluator that the options choose. -/
def runOptions {σ : Type} (t : Remote.Transport σ) (settings : Settings) (o : Options) (s : σ)
    (input : String) : Run × σ :=
  if o.remote then
    match Remote.Client.ofSettings settings with
    | .error f => (oneRun (.error (.failure f)), s)
    | .ok c => runWith settings o (c.evaluator t) s input
  else
    let evaluate : Evaluator σ := fun s expression =>
      ((Service.ofSettings settings).evaluate expression, s)
    runWith settings o evaluate s input

/-- The program. -/
def run {σ : Type} (t : Remote.Transport σ) (settings : Except Settings.LoadError Settings)
    (arguments : List String) (s : σ) (input : String) : Run × σ :=
  match settings with
  | .error e => ({ ending := .settings e }, s)
  | .ok settings =>
    match Options.ofArguments arguments with
    | .error stop => (stop.run, s)
    | .ok o => runOptions t settings o s input

end PrefixCalc.CommandLine
