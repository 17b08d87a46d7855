import PrefixCalc.Json.Basic

/-!
# Result values

An evaluated expression is a number of any size or one of three kinds of error. Errors are values:
they are combined like numbers, and the first one wins.

## Main definitions

* `Value`: the result values.
* `Value.ofLiteral`: the value of a leaf's text.
* `Value.combine`: two values under an operator.
* `Value.render`: the text of a value.
* `Operand`: a result value, or any other value in its place.
* `Operand.apply`: `combine` where its operands need not be result values.
-/

namespace PrefixCalc

/-- The kinds of error that an evaluation can end in. -/
inductive ErrorKind where
  | divisionByZero
  | invalidOperator
  | invalidNumber
  deriving DecidableEq, Repr

namespace ErrorKind

/-- The name of a kind, as results and log records give it. -/
def name : ErrorKind → String
  | .divisionByZero => "DivisionByZero"
  | .invalidOperator => "InvalidOperator"
  | .invalidNumber => "InvalidNumber"

/-- The name of a kind, as a quoted value gives it. -/
def label : ErrorKind → String
  | .divisionByZero => "DIVISION_BY_ZERO"
  | .invalidOperator => "INVALID_OPERATOR"
  | .invalidNumber => "INVALID_NUMBER"

/-- The text shown for a kind. -/
def message : ErrorKind → String
  | .divisionByZero => "Error: Division by Zero!"
  | .invalidOperator => "Error: Invalid Operator!"
  | .invalidNumber => "Error: Invalid Number!"

/-- All kinds. -/
def all : List ErrorKind :=
  [.divisionByZero, .invalidOperator, .invalidNumber]

/-- The kind with a name. -/
def ofName? (s : String) : Option ErrorKind :=
  all.find? (·.name == s)

theorem ofName?_name (k : ErrorKind) : ofName? k.name = some k := by
  cases k <;> decide

end ErrorKind

/-- The result of an evaluation. -/
inductive Value where
  | number (n : Int)
  | error (kind : ErrorKind)
  deriving DecidableEq, Repr

namespace Value

/-! ### Literals -/

/-- The least literal. -/
def literalMin : Int := -Int.pow 2 63

/-- The greatest literal. -/
def literalMax : Int := Int.pow 2 63 - 1

/-- How many digits, leading zeros not counted, a literal in range can have. -/
def literalDigits : Nat := 19

/-- The value of a leaf: the integer that a numeral of no more than `literalDigits` digits stands
for, when it is in the range of a signed 64-bit integer. -/
def ofLiteral (s : String) : Value :=
  let cs := s.toList
  if Decimal.isNumeral cs then
    let (negative, ds) := Decimal.splitSign cs
    let significant := ds.dropWhile (· == '0')
    if significant.length ≤ literalDigits then
      let n := Decimal.signed negative (Decimal.ofDigits significant)
      if literalMin ≤ n ∧ n ≤ literalMax then .number n else .error .invalidNumber
    else .error .invalidNumber
  else .error .invalidNumber

/-! ### Combining values -/

/-- The quotient of two numbers, rounded toward zero: that of their absolute values, rounded down,
and negative if just one of the two is. -/
def truncatedQuotient (m n : Int) : Int :=
  let quotient : Int := (m.natAbs / n.natAbs : Nat)
  if decide (m < 0) = decide (n < 0) then quotient else -quotient

/-- **The quotient is the one that integers come with.** -/
theorem truncatedQuotient_eq_tdiv (m n : Int) : truncatedQuotient m n = m.tdiv n := by
  have hnat : ∀ k : Nat, ¬ (k : Int) < 0 := fun k => Int.not_lt.mpr (Int.natCast_nonneg k)
  cases m <;> cases n <;> simp [truncatedQuotient, Int.tdiv, hnat, Int.negSucc_lt_zero]

/-- The operation of an operator on two numbers. -/
def operation? : String → Option (Int → Int → Int)
  | "+" => some (· + ·)
  | "-" => some (· - ·)
  | "*" => some (· * ·)
  | "/" => some truncatedQuotient
  | _ => none

/-- Two numbers under an operator. -/
def calculate (operator : String) (m n : Int) : Value :=
  match operation? operator with
  | none => .error .invalidOperator
  | some f => if operator = "/" ∧ n = 0 then .error .divisionByZero else .number (f m n)

/-- Two values under an operator: an error on the left wins over all else, and one on the right
over the operator. -/
def combine : Value → String → Value → Value
  | .error k, _, _ => .error k
  | .number _, _, .error k => .error k
  | .number m, operator, .number n => calculate operator m n

@[simp] theorem combine_error_left (k : ErrorKind) (operator : String) (y : Value) :
    combine (.error k) operator y = .error k := rfl

@[simp] theorem combine_error_right (m : Int) (operator : String) (k : ErrorKind) :
    combine (.number m) operator (.error k) = .error k := rfl

@[simp] theorem combine_number (m n : Int) (operator : String) :
    combine (.number m) operator (.number n) = calculate operator m n := rfl

/-! ### Texts of values -/

/-- The text of a value. -/
def render : Value → Except Unwritable String
  | .number n => Decimal.write n
  | .error k => .ok k.message

/-- A value as a message shows it. -/
def shown : Value → Except Unwritable String
  | .number n => do return "Number(value=" ++ (← Decimal.write n) ++ ")"
  | .error k => .ok ("Error(kind=<ErrorKind." ++ k.label ++ ": '" ++ k.name ++ "'>)")

end Value

/-- What stands where a result value is expected. -/
inductive Operand where
  | value (v : Value)
  /-- A value that is no result. -/
  | foreign (j : Json)

namespace Operand

/-- An operand as a message shows it. -/
def shown : Operand → Except Unwritable String
  | .value v => v.shown
  | .foreign j => j.shown

end Operand

/-- Why an operand was refused. -/
inductive OperandError where
  /-- An operator cannot be applied. -/
  | cannotApply (operator : String) (x y : Operand)
  /-- A value that is no result cannot be shown as one. -/
  | notAResult (j : Json)

namespace OperandError

/-- The message of a refusal, if every integer in it can be written. -/
def message : OperandError → Except Unwritable String
  | .cannotApply operator x y => do
    let operands := (← x.shown) ++ " and " ++ (← y.shown)
    return "Cannot apply " ++ Text.quoted operator ++ " to " ++ operands
  | .notAResult j => do return "Not a result value: " ++ (← j.shown)

end OperandError

namespace Operand

/-- Two operands under an operator. An error value on either side wins; without one, both operands
must be result values. -/
def apply : Operand → String → Operand → Except OperandError Value
  | .value x, operator, .value y => .ok (x.combine operator y)
  | .value (.error k), _, .foreign _ => .ok (.error k)
  | .foreign _, _, .value (.error k) => .ok (.error k)
  | x, operator, y => .error (.cannotApply operator x y)

@[simp] theorem apply_value (x y : Value) (operator : String) :
    apply (.value x) operator (.value y) = .ok (x.combine operator y) := rfl

/-- One step of a run of applications: what is held after it, and the refusal if there was one.
A refused operand leaves what is held as it was. -/
def runStep (held : Operand) (operator : String) (y : Operand) : Operand × Option OperandError :=
  match held.apply operator y with
  | .ok v => (.value v, none)
  | .error e => (held, some e)

/-- A run of applications: what is held after each step, with the refusals. -/
def runSteps (held : Operand) : List (String × Operand) → List (Operand × Option OperandError)
  | [] => []
  | (operator, y) :: steps =>
    let after := held.runStep operator y
    after :: runSteps after.1 steps

end Operand

end PrefixCalc
