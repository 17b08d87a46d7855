import PrefixCalc.Failure
import PrefixCalc.Field

/-!
# Evaluation results

What a caller is told about an evaluation: the expression as it was given, the text of the value,
and the value, either as an integer or as the kind of its error.

## Main definitions

* `Evaluation`: the results.
* `Evaluation.ofValue`: the result for a value.
* `Evaluation.toJson`, `Evaluation.ofJson?`: results as JSON, and JSON as results.
-/

namespace PrefixCalc

/-- The result of an evaluation. -/
structure Evaluation where
  expression : String
  output : String
  value : Option Int := none
  error : Option ErrorKind := none
  deriving DecidableEq, Repr

namespace Evaluation

/-- The result for a value whose text can be written. -/
def ofValue (expression : String) (v : Value) : Except Unwritable Evaluation := do
  let output ← v.render
  match v with
  | .number n => return { expression, output, value := some n }
  | .error k => return { expression, output, error := some k }

/-- The result for an operand that is a result value. -/
def ofOperand (expression : String) : Operand → Except Escape Evaluation
  | .value v => (ofValue expression v).mapError .unwritable
  | .foreign j => .error (.operand (.notAResult j))

/-! ### Results as JSON -/

/-- A result as JSON. -/
def toJson (e : Evaluation) : Json :=
  .object [
    ("expression", .text e.expression),
    ("output", .text e.output),
    ("value", e.value.elim .null .int),
    ("error", e.error.elim .null fun k => .text k.name)]

/-- The kind of error that a member names; null and an absent member name none. -/
def errorOf? : Option Json → Option (Option ErrorKind)
  | none => some none
  | some .null => some none
  | some (.text name) => (ErrorKind.ofName? name).map some
  | some _ => none

/-- The result that a JSON value is: an object with two texts, and possibly an integer and the
name of an error kind. Other members are allowed. -/
def ofJson? (j : Json) : Option Evaluation := do
  let expression ← (Field.text (← j.get? "expression")).toOption
  let output ← (Field.text (← j.get? "output")).toOption
  let value ← (Field.optional Field.integer ((j.get? "value").getD .null)).toOption
  let error ← errorOf? (j.get? "error")
  return { expression, output, value, error }

end Evaluation

end PrefixCalc
