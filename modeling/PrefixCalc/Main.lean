import PrefixCalc.CommandLine.Program
import PrefixCalc.Remote.Transport

/-!
# Command line

Reads the settings from the environment and from a file `.env`, hands the arguments and the input
to the program, and writes what it leaves. No network is at hand, so that requests to a remote
evaluator fail.
-/

namespace PrefixCalc

/-- The variables that hold settings, in the environment of the process. -/
def readEnvironment : IO Settings.Environment := do
  let mut found := []
  for s in Setting.all do
    for name in [s.name.toLower, s.name.toUpper] do
      if let some value ← IO.getEnv name then
        found := found ++ [(name, value)]
  return found

/-- The text of a file, if it is there. -/
def readFile? (name : String) : IO (Option String) := do
  try
    return some (← IO.FS.readFile name)
  catch _ =>
    return none

/-- What is said of a run that an escape or a lack of settings ended. -/
def CommandLine.Ending.report : CommandLine.Ending → String
  | .status _ => ""
  | .settings (.unreadable s source) => Settings.unreadableMessage s source ++ "\n"
  | .settings (.tooDeep s source) => Settings.unreadableMessage s source ++ "\n"
  | .settings (.refused issues) =>
    String.join (issues.map fun i => Json.joined "." i.path ++ ": " ++ i.complaint.code ++ "\n")
  | .escape (.unwritable u) => u.message ++ "\n"
  | .escape (.operand e) => (e.message.toOption.getD "") ++ "\n"
  | .escape .tooDeep => Unwritable.tooDeep.message ++ "\n"
  | .escape (.address _) => "The URL of the remote evaluator is malformed\n"
  | .escape (.unplaced u) => unplacedMessage u ++ "\n"

/-- The status that a run is left with. -/
def CommandLine.Ending.code : CommandLine.Ending → Nat
  | .status n => n
  | _ => 1

/-- The input is read unless an expression is among the arguments. -/
def readInput (arguments : List String) : IO String := do
  match CommandLine.Options.ofArguments arguments with
  | .ok { expression := none, .. } => (← IO.getStdin).readToEnd
  | _ => return ""

end PrefixCalc

open PrefixCalc in
/-- Runs the program. -/
def main (arguments : List String) : IO UInt32 := do
  let environment ← readEnvironment
  let settings := Settings.load { environment, file := ← readFile? ".env" }
  let input ← readInput arguments
  let script : Remote.Script := { pending := [] }
  let (run, _) := CommandLine.run Remote.Script.transport settings arguments script input
  IO.print run.output
  IO.eprint (run.errors ++ run.ending.report)
  return UInt32.ofNat run.ending.code
