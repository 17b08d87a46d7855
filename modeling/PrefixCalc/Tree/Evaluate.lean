import PrefixCalc.Tree
import PrefixCalc.Value

/-!
# Evaluating trees

All operands of an application are evaluated, left to right and also behind an error, and their
values combined from the left. A tree that the reader could not have made is refused at the first
malformed node.

## Main definitions

* `Malformed`: what is wrong with a node.
* `Tree.evaluate`: the value of a tree.
-/

namespace PrefixCalc

/-- What is wrong with a node of a tree. -/
inductive Malformed where
  /-- An application without operands. -/
  | noOperands (operator : String)
  /-- A value that is no node. -/
  | foreign (value : Json)

/-- The wording of the fault. -/
def Malformed.message : Malformed → String
  | .noOperands _ => "Operator application has no operands."
  | .foreign value => "Unsupported tree node: " ++ value.typeWord

namespace Tree

mutual

/-- The value of a tree. -/
def evaluate : Tree → Except Malformed Value
  | .leaf literal => .ok (Value.ofLiteral literal)
  | .application operator [] => .error (.noOperands operator)
  | .application operator (t :: ts) => do evaluateRest operator (← t.evaluate) ts
  | .foreign value => .error (.foreign value)

/-- A value combined with the values of further operands. -/
def evaluateRest (operator : String) (held : Value) : List Tree → Except Malformed Value
  | [] => .ok held
  | t :: ts => do evaluateRest operator (held.combine operator (← t.evaluate)) ts

end

@[simp] theorem evaluate_leaf (literal : String) :
    (leaf literal).evaluate = .ok (Value.ofLiteral literal) := by
  simp [evaluate]

@[simp] theorem evaluateRest_nil (operator : String) (held : Value) :
    evaluateRest operator held [] = .ok held := by
  simp [evaluateRest]

end Tree

end PrefixCalc
