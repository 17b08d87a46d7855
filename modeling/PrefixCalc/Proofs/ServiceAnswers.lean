import PrefixCalc.Proofs.Growth
import PrefixCalc.Service

/-!
# What the Service Answers

A call of the service can end in a result, in a failure, or in an escape. This module settles
which of them occur. The reader promises regular trees, so no node of a tree that the service
evaluates is malformed; values are combined with values, so no operand is refused; and what is
left to go wrong is that a number has too many digits to be written. Since a number has fewer
digits than the text that it is read from has characters, that needs a text longer than most
services accept.

The evaluator combines values, which cannot be refused. `Tree.evaluateChecked` is the evaluation
in which every combination is given operands and asks whether they are values, and
`Service.answerChecked` the answer in which the result is asked once more. Both come to the same.

## Main results

* `Service.read_eq_ok_iff`: which texts the service evaluates.
* `Service.answer_eq_answerChecked`: asking whether operands are values changes nothing.
* `Service.evaluate_answers`: the answers of the service.
-/

namespace PrefixCalc

namespace Tree

/-! ### Evaluation with operands that may be refused -/

mutual

/-- The evaluation of a tree in which each operand is asked whether it is a value. -/
def evaluateChecked : Tree → Except Fault Operand
  | .leaf literal => .ok (.value (Value.ofLiteral literal))
  | .application operator [] => .error (.failure (.ofMalformed (.noOperands operator)))
  | .application operator (t :: ts) => do evaluateCheckedRest operator (← t.evaluateChecked) ts
  | .foreign value => .error (.failure (.ofMalformed (.foreign value)))

/-- An operand combined with further operands, up to the first refusal. -/
def evaluateCheckedRest (operator : String) (held : Operand) : List Tree → Except Fault Operand
  | [] => .ok held
  | t :: ts => do
    let next ← t.evaluateChecked
    let v ← (held.apply operator next).mapError fun e => .escape (.operand e)
    evaluateCheckedRest operator (.value v) ts

end

/-- What an evaluation ends in, as the answer to a call. -/
def answered : Except Malformed Value → Except Fault Operand
  | .ok v => .ok (.value v)
  | .error m => .error (.failure (.ofMalformed m))

theorem evaluateCheckedRest_value {operator : String} {ts : List Tree}
    (h : ∀ t ∈ ts, t.evaluateChecked = answered t.evaluate) (held : Value) :
    evaluateCheckedRest operator (.value held) ts = answered (evaluateRest operator held ts) := by
  induction ts generalizing held with
  | nil => rw [evaluateCheckedRest, evaluateRest_nil, answered]
  | cons t ts ih =>
      rw [List.forall_mem_cons] at h
      obtain ⟨ht, hts⟩ := h
      rw [evaluateCheckedRest, ht]
      cases hevaluate : t.evaluate with
      | error m =>
          rw [evaluateRest, hevaluate]
          rfl
      | ok v =>
          rw [evaluateRest_cons hevaluate, ← ih hts]
          rfl

/-- **No operand is refused in the evaluation of a tree**, of whatever shape it is. -/
theorem evaluateChecked_eq (t : Tree) : t.evaluateChecked = answered t.evaluate := by
  induction t using inductionOn with
  | leaf literal => rw [evaluateChecked, evaluate_leaf, answered]
  | application operator operands ih =>
      cases operands with
      | nil => rw [evaluateChecked, evaluate, answered]
      | cons t ts =>
          rw [List.forall_mem_cons] at ih
          obtain ⟨ht, hts⟩ := ih
          rw [evaluateChecked, ht]
          cases hevaluate : t.evaluate with
          | error m =>
              rw [evaluate, hevaluate]
              rfl
          | ok v =>
              rw [evaluate_application hevaluate, ← evaluateCheckedRest_value hts]
              rfl
  | foreign value => rw [evaluateChecked, evaluate, answered]

end Tree

/-! ### Results -/

namespace Evaluation

/-- A result is refused exactly when it is a number with too many digits. -/
theorem ofValue_eq_error_iff {expression : String} {v : Value} {u : Unwritable} :
    ofValue expression v = .error u ↔
      ∃ n, v = .number n ∧ Decimal.maxDigits < Decimal.digitCount n ∧ u = .tooManyDigits := by
  cases v with
  | error k =>
      constructor
      · intro h
        cases h
      · rintro ⟨n, hn, -⟩
        cases hn
  | number n =>
      have hwrite : ofValue expression (.number n) = .error u ↔ Decimal.write n = .error u := by
        rw [ofValue, Value.render]
        cases Decimal.write n with
        | error w =>
            constructor
            · intro h
              cases h
              rfl
            · intro h
              cases h
              rfl
        | ok output =>
            constructor
            · intro h
              cases h
            · intro h
              cases h
      rw [hwrite, Decimal.write_eq_error_iff]
      constructor
      · intro h
        exact ⟨n, rfl, h⟩
      · rintro ⟨m, hm, h⟩
        cases hm
        exact h

end Evaluation

namespace Service

variable {s : Service} {text : String}

/-! ### Reading -/

/-- The service evaluates a text that is not too long and is read as a tree. -/
theorem read_eq_ok_iff {t : Tree} :
    s.read text = .ok t ↔
      (Text.trim text).length ≤ s.limit ∧ Tree.parse (Text.trim text) = .ok t := by
  rw [read]
  by_cases hempty : (Text.trim text).isEmpty = true
  · rw [if_pos hempty, String.isEmpty_iff.mp hempty]
    constructor
    · intro h
      cases h
    · rintro ⟨-, h⟩
      cases h
  · rw [if_neg hempty]
    by_cases hlong : s.limit < (Text.trim text).length
    · rw [if_pos hlong]
      constructor
      · intro h
        cases hlimit : Decimal.write s.limit with
        | ok limit =>
            rw [hlimit] at h
            cases h
        | error u =>
            rw [hlimit] at h
            cases h
      · rintro ⟨hshort, -⟩
        omega
    · rw [if_neg hlong, and_iff_right (Int.not_lt.mp hlong)]
      cases Tree.parse (Text.trim text) with
      | ok u =>
          constructor
          · intro h
            cases h
            rfl
          · intro h
            cases h
            rfl
      | error e =>
          constructor
          · intro h
            cases h
          · intro h
            cases h

/-- Every other text is refused with a failure of the parse kind, if the limit can be written. -/
theorem kind_of_read_eq_error (hlimit : Decimal.digitCount s.limit ≤ Decimal.maxDigits)
    {f : Fault} (h : s.read text = .error f) : ∃ e, f = .failure e ∧ e.kind = .parse := by
  rw [read] at h
  by_cases hempty : (Text.trim text).isEmpty = true
  · rw [if_pos hempty] at h
    cases h
    exact ⟨_, rfl, rfl⟩
  · rw [if_neg hempty] at h
    by_cases hlong : s.limit < (Text.trim text).length
    · rw [if_pos hlong] at h
      cases hwrite : Decimal.write s.limit with
      | ok limit =>
          rw [hwrite] at h
          cases h
          exact ⟨_, rfl, rfl⟩
      | error u =>
          have hdigits := (Decimal.write_eq_error_iff.mp hwrite).1
          omega
    · rw [if_neg hlong] at h
      cases hparse : Tree.parse (Text.trim text) with
      | ok t =>
          rw [hparse] at h
          cases h
      | error e =>
          rw [hparse] at h
          cases h
          exact ⟨_, rfl, rfl⟩

/-- A tree that the service evaluates has a value. -/
theorem exists_evaluate_of_read {t : Tree} (h : s.read text = .ok t) :
    ∃ v, t.evaluate = .ok v := by
  have hwell := (Tree.parse_eq_ok_iff.mp (read_eq_ok_iff.mp h).2).1
  exact ⟨_, Tree.evaluate_eq_reckon (Tree.regular_of_isProper hwell.proper)⟩

/-! ### Answers -/

theorem answer_of_read_error {f : Fault} (h : s.read text = .error f) :
    (s.evaluate text).answer = .error f := by
  rw [evaluate, h]

theorem answer_of_read_ok {t : Tree} {v : Value} (h : s.read text = .ok t)
    (hv : t.evaluate = .ok v) :
    (s.evaluate text).answer = (Evaluation.ofValue text v).mapError .ofUnwritable := by
  rw [evaluate, h]
  simp only [hv]

/-- Behind the evaluation only a number with too many digits is without a result. -/
theorem number_of_answer_error {t : Tree} {v : Value} {f : Fault} (hread : s.read text = .ok t)
    (hv : t.evaluate = .ok v) (h : (s.evaluate text).answer = .error f) :
    ∃ n, v = .number n ∧ Decimal.maxDigits < Decimal.digitCount n ∧
      f = .escape (.unwritable .tooManyDigits) := by
  rw [answer_of_read_ok hread hv] at h
  cases hresult : Evaluation.ofValue text v with
  | ok r =>
      rw [hresult] at h
      cases h
  | error u =>
      obtain ⟨n, hn, hdigits, rfl⟩ := Evaluation.ofValue_eq_error_iff.mp hresult
      rw [hresult] at h
      cases h
      exact ⟨n, hn, hdigits, rfl⟩

/-- A number with too many digits is without a result. -/
theorem answer_of_tooManyDigits {t : Tree} {n : Int} (hread : s.read text = .ok t)
    (hv : t.evaluate = .ok (.number n)) (hdigits : Decimal.maxDigits < Decimal.digitCount n) :
    (s.evaluate text).answer = .error (.escape (.unwritable .tooManyDigits)) := by
  have hresult : Evaluation.ofValue text (.number n) = .error .tooManyDigits :=
    Evaluation.ofValue_eq_error_iff.mpr ⟨n, rfl, hdigits, rfl⟩
  rw [answer_of_read_ok hread hv, hresult]
  rfl

/-- The answer of the service when every combination of operands, and the result, is asked for
values. -/
def answerChecked (s : Service) (text : String) : Except Fault Evaluation := do
  let t ← s.read text
  let x ← t.evaluateChecked
  (Evaluation.ofOperand text x).mapError .escape

/-- **Asking whether operands are values changes no answer.** -/
theorem answer_eq_answerChecked (s : Service) (text : String) :
    (s.evaluate text).answer = s.answerChecked text := by
  rw [answerChecked]
  cases hread : s.read text with
  | error f =>
      rw [answer_of_read_error hread]
      rfl
  | ok t =>
      obtain ⟨v, hv⟩ := exists_evaluate_of_read hread
      rw [answer_of_read_ok hread hv]
      change _ = (t.evaluateChecked >>= fun x => (Evaluation.ofOperand text x).mapError .escape)
      rw [Tree.evaluateChecked_eq, hv]
      change _ = ((Evaluation.ofValue text v).mapError Escape.unwritable).mapError Fault.escape
      cases Evaluation.ofValue text v <;> rfl

/-- A call without a result ends in a failure of the parse kind or in an escape for a number. -/
theorem fault_cases (hlimit : Decimal.digitCount s.limit ≤ Decimal.maxDigits) {f : Fault}
    (h : (s.evaluate text).answer = .error f) :
    (∃ e, f = .failure e ∧ e.kind = .parse) ∨ f = .escape (.unwritable .tooManyDigits) := by
  cases hread : s.read text with
  | error g =>
      rw [answer_of_read_error hread] at h
      cases h
      exact .inl (kind_of_read_eq_error hlimit hread)
  | ok t =>
      obtain ⟨v, hv⟩ := exists_evaluate_of_read hread
      obtain ⟨n, -, -, hf⟩ := number_of_answer_error hread hv h
      exact .inr hf

/-- A call whose result has too many digits escapes, and no other call does. -/
theorem answer_eq_tooManyDigits_iff (hlimit : Decimal.digitCount s.limit ≤ Decimal.maxDigits) :
    (s.evaluate text).answer = .error (.escape (.unwritable .tooManyDigits)) ↔
      (Text.trim text).length ≤ s.limit ∧ ∃ t n, Tree.parse (Text.trim text) = .ok t ∧
        t.evaluate = .ok (.number n) ∧ Decimal.maxDigits < Decimal.digitCount n := by
  constructor
  · intro h
    cases hread : s.read text with
    | error f =>
        obtain ⟨e, rfl, -⟩ := kind_of_read_eq_error hlimit hread
        rw [answer_of_read_error hread] at h
        cases h
    | ok t =>
        obtain ⟨v, hv⟩ := exists_evaluate_of_read hread
        obtain ⟨hshort, hparse⟩ := read_eq_ok_iff.mp hread
        obtain ⟨n, rfl, hdigits, -⟩ := number_of_answer_error hread hv h
        exact ⟨hshort, t, n, hparse, hv, hdigits⟩
  · rintro ⟨hshort, t, n, hparse, hv, hdigits⟩
    exact answer_of_tooManyDigits (read_eq_ok_iff.mpr ⟨hshort, hparse⟩) hv hdigits

/-- A text has two characters more than its number has digits, so a limit of two more than the
digits that can be written leaves no number that cannot. -/
theorem digitCount_le_of_parse {t : Tree} {n : Int} (hparse : Tree.parse (Text.trim text) = .ok t)
    (hv : t.evaluate = .ok (.number n)) (hshort : (Text.trim text).length ≤ s.limit)
    (hlimit : s.limit ≤ (Decimal.maxDigits : Int) + 2) :
    Decimal.digitCount n ≤ Decimal.maxDigits := by
  have hlength := Tree.digitCount_add_two_le hparse hv
  omega

/-- **The answers of the service**, for every text and every limit that can be written: a result,
a failure of the parse kind, or the escape of a number that cannot be written. The escape occurs
exactly when the trimmed text is short enough, is read, and evaluates to a number with too many
digits; and it never occurs when the limit is at most two above the digits that can be written. -/
theorem evaluate_answers {s : Service} (h : Decimal.digitCount s.limit ≤ Decimal.maxDigits)
    (text : String) :
    let answer := (s.evaluate text).answer
    answer = s.answerChecked text ∧
      ((∃ r, answer = .ok r) ∨ (∃ e, answer = .error (.failure e) ∧ e.kind = .parse) ∨
        answer = .error (.escape (.unwritable .tooManyDigits))) ∧
      (answer = .error (.escape (.unwritable .tooManyDigits)) ↔
        (Text.trim text).length ≤ s.limit ∧ ∃ t n, Tree.parse (Text.trim text) = .ok t ∧
          t.evaluate = .ok (.number n) ∧ Decimal.maxDigits < Decimal.digitCount n) ∧
      (∀ e, answer = .error (.failure e) → e.kind ≠ .malformedTree) ∧
      (∀ e, answer ≠ .error (.escape (.operand e))) ∧
      (s.limit ≤ (Decimal.maxDigits : Int) + 2 →
        answer ≠ .error (.escape (.unwritable .tooManyDigits))) := by
  intro answer
  refine ⟨answer_eq_answerChecked s text, ?_, answer_eq_tooManyDigits_iff h, ?_, ?_, ?_⟩
  · cases hanswer : answer with
    | ok r => exact .inl ⟨r, rfl⟩
    | error f =>
        rcases fault_cases h hanswer with ⟨e, rfl, hkind⟩ | rfl
        · exact .inr (.inl ⟨e, rfl, hkind⟩)
        · exact .inr (.inr rfl)
  · intro e he
    rcases fault_cases h he with ⟨e', heq, hkind⟩ | heq
    · cases heq
      rw [hkind]
      decide
    · cases heq
  · intro e he
    rcases fault_cases h he with ⟨e', heq, -⟩ | heq
    · cases heq
    · cases heq
  · intro hlimit hescape
    obtain ⟨hshort, t, n, hparse, hv, hdigits⟩ := (answer_eq_tooManyDigits_iff h).mp hescape
    exact absurd (digitCount_le_of_parse hparse hv hshort hlimit) (Nat.not_le.mpr hdigits)

/-- Under the default limit, every number can be written. -/
theorem evaluate_answers_default_limit :
    let s : Service := {}
    Decimal.digitCount s.limit ≤ Decimal.maxDigits ∧ s.limit ≤ (Decimal.maxDigits : Int) + 2 ∧
      (s.evaluate " (* 12 (+ 3 4)) ").answer ≠ .error (.escape (.unwritable .tooManyDigits)) := by
  intro s
  have hdigits : Decimal.digitCount s.limit ≤ Decimal.maxDigits := by decide
  have hlimit : s.limit ≤ (Decimal.maxDigits : Int) + 2 := by decide
  obtain ⟨-, -, -, -, -, hnever⟩ := evaluate_answers hdigits " (* 12 (+ 3 4)) "
  exact ⟨hdigits, hlimit, hnever hlimit⟩

end Service

end PrefixCalc
