import PrefixCalc.Proofs.Literals
import PrefixCalc.Proofs.Trees
import PrefixCalc.Tree.Evaluate

/-!
# The First Fault

The evaluator evaluates every operand and carries errors along as values. This module holds it
against two other readings of a tree.

`Tree.reckon` stops at the first fault: it walks the tree depth first, operands from left to
right, and combines the number that it holds with each further operand as soon as that operand
is a number. `Tree.survey` never stops: it goes on behind a fault with the value unknown and
notes every fault that occurs, in the order of evaluation. Where a value is unknown, nothing is
combined with it.

The three agree. What the evaluator returns is what the first reading ends in, and the kind of
its error is the first fault that the second reading notes; so no fault is masked or replaced by
a later one, and a number is returned exactly when no fault occurs anywhere in the tree.

## Main results

* `Tree.evaluate_eq_reckon`: the evaluator ends in what the reading that stops ends in.
* `Tree.survey_agrees`: the reading that goes on notes the same fault first.
* `Tree.evaluate_stops_at_first_fault`: both, for the evaluator.
-/

namespace PrefixCalc

/-- Two numbers under an operator, or the fault in combining them. -/
def combination (operator : String) (m n : Int) : Except ErrorKind Int :=
  match operator with
  | "+" => .ok (m + n)
  | "-" => .ok (m - n)
  | "*" => .ok (m * n)
  | "/" => if n = 0 then .error .divisionByZero else .ok (m.tdiv n)
  | _ => .error .invalidOperator

namespace Tree

/-! ### Stopping at the first fault -/

mutual

/-- The number that a tree stands for, or the first fault. Trees that are not regular stand for
nothing in particular. -/
def reckon : Tree → Except ErrorKind Int
  | .leaf literal =>
    match Value.literal? literal with
    | some n => .ok n
    | none => .error .invalidNumber
  | .application operator (t :: ts) => do reckonRest operator (← t.reckon) ts
  | _ => .ok 0

/-- A number combined with further operands, up to the first fault. -/
def reckonRest (operator : String) (held : Int) : List Tree → Except ErrorKind Int
  | [] => .ok held
  | t :: ts => do reckonRest operator (← combination operator held (← t.reckon)) ts

end

/-! ### Going on behind a fault -/

/-- What is known of a value, and the faults so far. -/
structure Survey where
  value : Option Int
  faults : List ErrorKind

/-- The survey of two values combined: first the faults of the left one, then those of the right
one, and last the fault in combining them, if both are known. -/
def Survey.combine (x : Survey) (operator : String) (y : Survey) : Survey :=
  match x.value, y.value with
  | some m, some n =>
    match combination operator m n with
    | .ok r => ⟨some r, x.faults ++ y.faults⟩
    | .error k => ⟨none, x.faults ++ y.faults ++ [k]⟩
  | _, _ => ⟨none, x.faults ++ y.faults⟩

mutual

/-- What is known of the value of a tree, and all faults in it in the order of evaluation. -/
def survey : Tree → Survey
  | .leaf literal =>
    match Value.literal? literal with
    | some n => ⟨some n, []⟩
    | none => ⟨none, [.invalidNumber]⟩
  | .application operator (t :: ts) => surveyRest operator t.survey ts
  | _ => ⟨some 0, []⟩

/-- A survey combined with those of further operands. -/
def surveyRest (operator : String) (held : Survey) : List Tree → Survey
  | [] => held
  | t :: ts => surveyRest operator (held.combine operator t.survey) ts

end

/-- The faults in a tree, in the order of evaluation. -/
def faults (t : Tree) : List ErrorKind :=
  t.survey.faults

/-! ### Equations -/

theorem evaluateRest_cons {operator : String} {held v : Value} {t : Tree}
    (h : t.evaluate = .ok v) (ts : List Tree) :
    evaluateRest operator held (t :: ts) =
      evaluateRest operator (held.combine operator v) ts := by
  rw [evaluateRest, h]
  rfl

theorem evaluate_application {operator : String} {t : Tree} {v : Value}
    (h : t.evaluate = .ok v) (ts : List Tree) :
    (application operator (t :: ts)).evaluate = evaluateRest operator v ts := by
  rw [evaluate, h]
  rfl

theorem reckon_application_of_ok {operator : String} {t : Tree} {m : Int}
    (h : t.reckon = .ok m) (ts : List Tree) :
    (application operator (t :: ts)).reckon = reckonRest operator m ts := by
  rw [reckon, h]
  rfl

theorem reckon_application_of_error {operator : String} {t : Tree} {k : ErrorKind}
    (h : t.reckon = .error k) (ts : List Tree) :
    (application operator (t :: ts)).reckon = .error k := by
  rw [reckon, h]
  rfl

/-- A fault in the next operand, or in combining it, is where the reading stops. -/
theorem reckonRest_cons_of_error {operator : String} {held : Int} {t : Tree} {k : ErrorKind}
    (h : t.reckon = .error k) (ts : List Tree) :
    reckonRest operator held (t :: ts) = .error k := by
  rw [reckonRest, h]
  rfl

theorem reckonRest_cons_of_combination_error {operator : String} {held n : Int} {t : Tree}
    {k : ErrorKind} (h : t.reckon = .ok n) (hk : combination operator held n = .error k)
    (ts : List Tree) : reckonRest operator held (t :: ts) = .error k := by
  rw [reckonRest, h]
  change (combination operator held n >>= fun m => reckonRest operator m ts) = _
  rw [hk]
  rfl

theorem reckonRest_cons_of_ok {operator : String} {held n m : Int} {t : Tree}
    (h : t.reckon = .ok n) (hm : combination operator held n = .ok m) (ts : List Tree) :
    reckonRest operator held (t :: ts) = reckonRest operator m ts := by
  rw [reckonRest, h]
  change (combination operator held n >>= fun m => reckonRest operator m ts) = _
  rw [hm]
  rfl

end Tree

/-! ### The evaluator -/

/-- A number or a fault as a result value. -/
def Value.ofReckoning : Except ErrorKind Int → Value
  | .ok n => .number n
  | .error k => .error k

theorem Value.ofLiteral_eq_ofReckoning (literal : String) :
    Value.ofLiteral literal = .ofReckoning (Tree.leaf literal).reckon := by
  rw [ofLiteral_eq_literal?, Tree.reckon]
  cases Value.literal? literal <;> rfl

theorem Value.operation?_eq_none_iff {operator : String} :
    operation? operator = none ↔ operator ∉ ["+", "-", "*", "/"] := by
  unfold operation?
  split <;> simp_all

/-- Combining two numbers ends in their combination or in its fault. -/
theorem Value.calculate_eq_combination (operator : String) (m n : Int) :
    Value.calculate operator m n = .ofReckoning (combination operator m n) := by
  unfold combination
  split
  · rfl
  · rfl
  · rfl
  · by_cases hn : n = 0 <;> simp [calculate, operation?, ofReckoning, hn, truncatedQuotient_eq_tdiv]
  · next hadd hsub hmul hdiv =>
      have hnone : operation? operator = none :=
        operation?_eq_none_iff.mpr (by simpa using ⟨hadd, hsub, hmul, hdiv⟩)
      simp only [calculate, hnone, ofReckoning]

namespace Tree

/-- Behind an error the evaluator keeps the error, as long as the operands have values at all. -/
theorem evaluateRest_error {operator : String} {ts : List Tree}
    (h : ∀ t ∈ ts, ∃ v, t.evaluate = .ok v) (k : ErrorKind) :
    evaluateRest operator (.error k) ts = .ok (.error k) := by
  induction ts with
  | nil => exact evaluateRest_nil ..
  | cons t ts ih =>
      rw [List.forall_mem_cons] at h
      obtain ⟨⟨v, hv⟩, hts⟩ := h
      rw [evaluateRest_cons hv, Value.combine_error_left, ih hts]

/-- The evaluator combines a number with further operands up to the first fault. -/
theorem evaluateRest_number {operator : String} {ts : List Tree}
    (h : ∀ t ∈ ts, t.evaluate = .ok (.ofReckoning t.reckon)) (held : Int) :
    evaluateRest operator (.number held) ts =
      .ok (.ofReckoning (reckonRest operator held ts)) := by
  induction ts generalizing held with
  | nil => rw [evaluateRest_nil, reckonRest, Value.ofReckoning]
  | cons t ts ih =>
      rw [List.forall_mem_cons] at h
      obtain ⟨ht, hts⟩ := h
      have hrest : ∀ k, evaluateRest operator (.error k) ts = .ok (.error k) :=
        evaluateRest_error fun u hu => ⟨_, hts u hu⟩
      rw [evaluateRest_cons ht]
      cases hreckon : t.reckon with
      | error k =>
          rw [Value.ofReckoning, Value.combine_error_right, hrest,
            reckonRest_cons_of_error hreckon, Value.ofReckoning]
      | ok n =>
          rw [Value.ofReckoning, Value.combine_number, Value.calculate_eq_combination]
          cases hcombination : combination operator held n with
          | error k =>
              rw [Value.ofReckoning, hrest,
                reckonRest_cons_of_combination_error hreckon hcombination, Value.ofReckoning]
          | ok m => rw [Value.ofReckoning, ih hts, reckonRest_cons_of_ok hreckon hcombination]

/-- **The evaluator ends in what the reading that stops at the first fault ends in.** -/
theorem evaluate_eq_reckon {t : Tree} (h : t.Regular) :
    t.evaluate = .ok (.ofReckoning t.reckon) := by
  induction h with
  | leaf literal => rw [evaluate_leaf, Value.ofLiteral_eq_ofReckoning]
  | application operator hne _ ih =>
      obtain ⟨t, ts, rfl⟩ := List.exists_cons_of_ne_nil hne
      rw [List.forall_mem_cons] at ih
      obtain ⟨ht, hts⟩ := ih
      rw [evaluate_application ht]
      cases hreckon : t.reckon with
      | error k =>
          rw [Value.ofReckoning, evaluateRest_error fun u hu => ⟨_, hts u hu⟩,
            reckon_application_of_error hreckon, Value.ofReckoning]
      | ok m =>
          rw [Value.ofReckoning, evaluateRest_number hts, reckon_application_of_ok hreckon]

/-! ### All faults -/

/-- A survey agrees with a reading that stops at the first fault: it has noted no fault and
knows the number, or has noted that fault first and does not know the value. -/
def Survey.Agrees (x : Survey) : Except ErrorKind Int → Prop
  | .ok n => x = ⟨some n, []⟩
  | .error k => x.value = none ∧ x.faults.head? = some k

/-- What is noted first stays first. -/
theorem Survey.Agrees.combine_of_error {x : Survey} {k : ErrorKind}
    (h : x.Agrees (.error k)) (operator : String) (y : Survey) :
    (x.combine operator y).Agrees (.error k) := by
  obtain ⟨hvalue, hfaults⟩ := h
  unfold Survey.combine
  rw [hvalue]
  exact ⟨rfl, by rw [List.head?_append, hfaults]; rfl⟩

/-- Without a fault before it, the first fault of the right operand is noted first. -/
theorem Survey.Agrees.combine_right_error {m : Int} {y : Survey} {k : ErrorKind}
    (h : y.Agrees (.error k)) (operator : String) :
    (Survey.combine ⟨some m, []⟩ operator y).Agrees (.error k) := by
  obtain ⟨hvalue, hfaults⟩ := h
  unfold Survey.combine
  rw [hvalue]
  exact ⟨rfl, hfaults⟩

theorem Survey.agrees_combine_of_ok (operator : String) (m n : Int) :
    (Survey.combine ⟨some m, []⟩ operator ⟨some n, []⟩).Agrees (combination operator m n) := by
  simp only [Survey.combine]
  cases combination operator m n with
  | ok r => exact rfl
  | error k => exact ⟨rfl, rfl⟩

theorem surveyRest_agrees_of_error {operator : String} {x : Survey} {k : ErrorKind}
    (h : x.Agrees (.error k)) (ts : List Tree) :
    (surveyRest operator x ts).Agrees (.error k) := by
  induction ts generalizing x with
  | nil =>
      rw [surveyRest]
      exact h
  | cons t ts ih =>
      rw [surveyRest]
      exact ih (h.combine_of_error operator t.survey)

theorem surveyRest_agrees {operator : String} {ts : List Tree}
    (h : ∀ t ∈ ts, t.survey.Agrees t.reckon) (held : Int) :
    (surveyRest operator ⟨some held, []⟩ ts).Agrees (reckonRest operator held ts) := by
  induction ts generalizing held with
  | nil =>
      rw [surveyRest, reckonRest]
      rfl
  | cons t ts ih =>
      rw [List.forall_mem_cons] at h
      obtain ⟨ht, hts⟩ := h
      rw [surveyRest]
      cases hreckon : t.reckon with
      | error k =>
          rw [hreckon] at ht
          rw [reckonRest_cons_of_error hreckon]
          exact surveyRest_agrees_of_error (ht.combine_right_error operator) ts
      | ok n =>
          rw [hreckon] at ht
          have hsurvey : t.survey = ⟨some n, []⟩ := ht
          have hagrees := Survey.agrees_combine_of_ok operator held n
          rw [hsurvey]
          cases hcombination : combination operator held n with
          | error k =>
              rw [hcombination] at hagrees
              rw [reckonRest_cons_of_combination_error hreckon hcombination]
              exact surveyRest_agrees_of_error hagrees ts
          | ok m =>
              rw [hcombination] at hagrees
              have hheld : Survey.combine ⟨some held, []⟩ operator ⟨some n, []⟩ = ⟨some m, []⟩ :=
                hagrees
              rw [hheld, reckonRest_cons_of_ok hreckon hcombination]
              exact ih hts m

/-- **The reading that goes on notes first the fault at which the other one stops.** -/
theorem survey_agrees {t : Tree} (h : t.Regular) : t.survey.Agrees t.reckon := by
  induction h with
  | leaf literal =>
      rw [survey, reckon]
      cases Value.literal? literal with
      | some n => exact rfl
      | none => exact ⟨rfl, rfl⟩
  | application operator hne _ ih =>
      obtain ⟨t, ts, rfl⟩ := List.exists_cons_of_ne_nil hne
      rw [List.forall_mem_cons] at ih
      obtain ⟨ht, hts⟩ := ih
      rw [survey]
      cases hreckon : t.reckon with
      | error k =>
          rw [hreckon] at ht
          rw [reckon_application_of_error hreckon]
          exact surveyRest_agrees_of_error ht ts
      | ok m =>
          rw [hreckon] at ht
          have hsurvey : t.survey = ⟨some m, []⟩ := ht
          rw [hsurvey, reckon_application_of_ok hreckon]
          exact surveyRest_agrees hts m

/-- **Evaluation stops at the first fault**, though every operand is evaluated: the evaluator
returns what the reading that stops ends in, its error is the first of all faults in the tree,
and it returns a number exactly when there is no fault anywhere in the tree. -/
theorem evaluate_stops_at_first_fault {t : Tree} (h : t.Regular) :
    t.evaluate = .ok (.ofReckoning t.reckon) ∧
      (∀ k, t.evaluate = .ok (.error k) ↔ t.faults.head? = some k) ∧
      ((∃ n, t.evaluate = .ok (.number n)) ↔ t.faults = []) := by
  have hevaluate := evaluate_eq_reckon h
  have hagrees := survey_agrees h
  refine ⟨hevaluate, ?_, ?_⟩
  · intro k
    rw [hevaluate, faults]
    cases hreckon : t.reckon with
    | ok n =>
        rw [hreckon] at hagrees
        have hsurvey : t.survey = ⟨some n, []⟩ := hagrees
        rw [hsurvey]
        simp [Value.ofReckoning]
    | error j =>
        rw [hreckon] at hagrees
        rw [hagrees.2]
        simp [Value.ofReckoning]
  · rw [hevaluate, faults]
    cases hreckon : t.reckon with
    | ok n =>
        rw [hreckon] at hagrees
        have hsurvey : t.survey = ⟨some n, []⟩ := hagrees
        rw [hsurvey]
        simp [Value.ofReckoning]
    | error j =>
        rw [hreckon] at hagrees
        have hne : t.survey.faults ≠ [] := by
          intro hnil
          rw [Survey.Agrees, hnil] at hagrees
          exact absurd hagrees.2 (by simp)
        simp [Value.ofReckoning, hne]

/-- An unknown operator is found before a division by zero and a literal that is no number. -/
theorem evaluate_stops_at_unknown_operator :
    let t : Tree := .application "+"
      [.application "%" [.leaf "1", .leaf "2"], .application "/" [.leaf "3", .leaf "0"], .leaf "x"]
    t.Regular ∧ t.evaluate = .ok (.error .invalidOperator) ∧
      t.faults = [.invalidOperator, .divisionByZero, .invalidNumber] := by
  intro t
  have hleaf : ∀ s, Regular (.leaf s) := Regular.leaf
  have hregular : t.Regular := by
    refine .application "+" (by simp) ?_
    simp only [List.forall_mem_cons, List.not_mem_nil, false_implies, implies_true, and_true]
    refine ⟨.application "%" (by simp) ?_, .application "/" (by simp) ?_, hleaf "x"⟩
    · simp [hleaf]
    · simp [hleaf]
  have hfaults : t.faults = [.invalidOperator, .divisionByZero, .invalidNumber] := by decide
  refine ⟨hregular, ?_, hfaults⟩
  rw [(evaluate_stops_at_first_fault hregular).2.1, hfaults]
  rfl

end Tree

end PrefixCalc
