import PrefixCalc.Text.Blank

/-!
# Runs of code points

Classes of characters are tables of runs. In some scripts every second code point belongs to a
class, since small and capital letters alternate, so that a run has a step.

## Main definitions

* `Run`, `inRuns`: a run, and membership in a table of runs.
-/

namespace PrefixCalc.Text

/-- The code points from the first to the last of a run, by its step. -/
abbrev Run := Nat × Nat × Nat

/-- A code point belongs to a run. -/
def Run.holds (r : Run) (n : Nat) : Bool :=
  r.1 ≤ n && n ≤ r.2.1 && (n - r.1) % r.2.2 == 0

/-- A code point belongs to one of the runs. -/
def inRuns (runs : List Run) (n : Nat) : Bool :=
  runs.any (·.holds n)

end PrefixCalc.Text
