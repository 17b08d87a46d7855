import Mathlib.Data.List.DropRight
import Mathlib.Data.List.TakeWhile
import PrefixCalc.Proofs.Replies
import PrefixCalc.Proofs.TokenPartition

/-!
# What an Answer of the Service Depends On

Three facts of the service that a caller behind another program relies on. Blanks around an
expression show only in the expression that a result names, since they are trimmed before anything
else is done, and trimming twice is trimming once. A column in a failure is bounded by the length
of the trimmed text. And the one escape of the service is that of a number with too many digits, so
that otherwise there is an answer (`Service.Writes`).

## Main results

* `Service.answer_trim`: the answer to a trimmed text.
* `Service.column_of_answer`: how great a column is.
* `Service.answer_cases`, `Service.writes_of_limit`: when there is an answer.
-/

namespace PrefixCalc

/-! ### Columns -/

/-- The column of an error is that of a token, or the one behind the text. -/
theorem Reader.column_le_of_run {parenthesised : Bool} {endColumn : Nat} {s : State}
    {ts : List Token} {e : ReadError} (h : run parenthesised endColumn s ts = .error e)
    (hts : ∀ t ∈ ts, t.column ≤ endColumn) : e.column ≤ endColumn := by
  induction ts generalizing s with
  | nil =>
      rw [run] at h
      cases hfinish : finish parenthesised s with
      | ok t =>
          rw [hfinish] at h
          cases h
      | error c =>
          rw [hfinish] at h
          cases h
          exact Nat.le_refl _
  | cons t ts ih =>
      rw [List.forall_mem_cons] at hts
      rw [run] at h
      cases hstep : step parenthesised s t.lexeme with
      | ok later =>
          rw [hstep] at h
          exact ih h hts.2
      | error c =>
          rw [hstep] at h
          cases h
          exact hts.1

theorem Tree.column_le_of_parse {text : String} {e : ReadError} (h : parse text = .error e) :
    e.column ≤ text.length + 1 := by
  have hscan : ∀ t ∈ Token.scan text, t.column ≤ text.length + 1 := fun t ht =>
    Nat.le_succ_of_le (Token.column_le_of_mem_scan ht)
  rw [parse, ofTokens] at h
  split at h
  · cases h
    exact Nat.le_add_left _ _
  · refine Reader.column_le_of_run h ?_
    split
    · exact fun t ht => hscan t (List.mem_of_mem_drop ht)
    · exact hscan

/-! ### Trimmed texts -/

theorem Text.trimEnds_trimEnds (p : Char → Bool) (cs : List Char) :
    trimEnds p (trimEnds p cs) = trimEnds p cs := by
  have hends : ∀ cs, trimEnds p cs = (cs.dropWhile p).rdropWhile p := fun _ => rfl
  have hstart : (trimEnds p cs).dropWhile p = trimEnds p cs := by
    rw [hends]
    cases hrest : cs.dropWhile p with
    | nil => simp
    | cons c ds =>
        have hc : p c = false := by simpa [hrest] using List.head?_dropWhile_not p cs
        cases hkept : (c :: ds).rdropWhile p with
        | nil => rfl
        | cons d es =>
            have hprefix := List.rdropWhile_prefix p (c :: ds)
            rw [hkept, List.cons_prefix_cons] at hprefix
            rw [List.dropWhile_cons, hprefix.1, hc, if_neg (by simp)]
  rw [hends (trimEnds p cs), hstart, hends, List.rdropWhile_idempotent]

@[simp] theorem Text.trim_trim (s : String) : trim (trim s) = trim s := by
  rw [trim, toList_trim, trimEnds_trimEnds, trim]

/-! ### Answers -/

/-- A result names its expression, and its number can be written. -/
theorem Evaluation.of_ofValue {expression : String} {v : Value} {r : Evaluation}
    (h : ofValue expression v = .ok r) :
    r.expression = expression ∧ ∀ n, r.value = some n → ∃ digits, Decimal.write n = .ok digits := by
  cases v with
  | error k =>
      cases h
      exact ⟨rfl, fun n hn => by cases hn⟩
  | number m =>
      cases hwrite : Decimal.write m with
      | ok digits =>
          simp only [ofValue, Value.render, hwrite] at h
          cases h
          refine ⟨rfl, fun n hn => ?_⟩
          cases hn
          exact ⟨digits, hwrite⟩
      | error u =>
          simp only [ofValue, Value.render, hwrite] at h
          cases h

namespace Service

variable {s : Service} {text : String}

theorem read_trim (s : Service) (text : String) : s.read (Text.trim text) = s.read text := by
  rw [read, read, Text.trim_trim]

/-- Expressions that are read alike have answers that differ in the expression that they name. -/
theorem answer_of_read_eq {a b : String} (h : s.read a = s.read b) :
    (s.evaluate a).answer = (s.evaluate b).answer.map fun r => { r with expression := a } := by
  cases hread : s.read b with
  | error f =>
      rw [answer_of_read_error hread, answer_of_read_error (h.trans hread)]
      rfl
  | ok t =>
      obtain ⟨v, hv⟩ := exists_evaluate_of_read hread
      rw [answer_of_read_ok hread hv, answer_of_read_ok (h.trans hread) hv]
      cases v with
      | error k => rfl
      | number n =>
          rw [Evaluation.ofValue, Evaluation.ofValue, Value.render]
          cases Decimal.write n <;> rfl

/-- The answer to a trimmed text names the trimmed text. -/
theorem answer_trim (s : Service) (text : String) :
    (s.evaluate (Text.trim text)).answer =
      (s.evaluate text).answer.map fun r => { r with expression := Text.trim text } :=
  answer_of_read_eq (s.read_trim text)

/-- The only escape of the service is that of a number that cannot be written. -/
theorem escape_of_answer {x : Escape} (h : (s.evaluate text).answer = .error (.escape x)) :
    x = .unwritable .tooManyDigits := by
  cases hread : s.read text with
  | ok t =>
      obtain ⟨v, hv⟩ := exists_evaluate_of_read hread
      obtain ⟨-, -, -, hescape⟩ := number_of_answer_error hread hv h
      cases hescape
      rfl
  | error f =>
      rw [answer_of_read_error hread] at h
      cases h
      rcases read_error_cases hread with hx | ⟨limit, hx⟩ | hx | ⟨e, -, hx⟩
      · cases hx
      · cases hx
      · cases hx
        rfl
      · cases hx

/-- The service writes what it comes to: no number in it has too many digits. -/
def Writes (s : Service) (text : String) : Prop :=
  (s.evaluate text).answer ≠ .error (.escape (.unwritable .tooManyDigits))

/-- Then it answers by a result or a failure. -/
theorem answer_cases (h : s.Writes text) :
    (∃ e, (s.evaluate text).answer = .ok e) ∨
      ∃ f, (s.evaluate text).answer = .error (.failure f) := by
  cases hanswer : (s.evaluate text).answer with
  | ok e => exact .inl ⟨e, rfl⟩
  | error fault =>
      cases fault with
      | failure f => exact .inr ⟨f, rfl⟩
      | escape x =>
          rw [escape_of_answer hanswer] at hanswer
          exact absurd hanswer h

/-- A limit that can be written, and leaves no number that cannot. -/
theorem writes_of_limit (hdigits : Decimal.digitCount s.limit ≤ Decimal.maxDigits)
    (hlimit : s.limit ≤ (Decimal.maxDigits : Int) + 2) (text : String) : s.Writes text := by
  intro hescape
  obtain ⟨hshort, t, n, hparse, hv, hlong⟩ := (answer_eq_tooManyDigits_iff hdigits).mp hescape
  exact absurd (digitCount_le_of_parse hparse hv hshort hlimit) (Nat.not_le.mpr hlong)

/-- A result of the service is the result for a value. -/
theorem exists_ofValue_of_answer {r : Evaluation} (h : (s.evaluate text).answer = .ok r) :
    ∃ v, Evaluation.ofValue text v = .ok r := by
  rcases evaluate_cases s text with ⟨f, -, heq⟩ | ⟨t, v, -, heq⟩
  · rw [heq] at h
    cases h
  · rw [heq] at h
    cases hvalue : Evaluation.ofValue text v with
    | error u =>
        rw [hvalue] at h
        cases h
    | ok e =>
        rw [hvalue] at h
        cases h
        exact ⟨v, hvalue⟩

/-- A result names the expression as it was given. -/
theorem expression_of_answer {r : Evaluation} (h : (s.evaluate text).answer = .ok r) :
    r.expression = text := by
  obtain ⟨v, hv⟩ := exists_ofValue_of_answer h
  exact (Evaluation.of_ofValue hv).1

/-- The number of a result can be written. -/
theorem exists_write_of_answer {r : Evaluation} (h : (s.evaluate text).answer = .ok r) :
    ∀ n, r.value = some n → ∃ digits, Decimal.write n = .ok digits := by
  obtain ⟨v, hv⟩ := exists_ofValue_of_answer h
  exact (Evaluation.of_ofValue hv).2

/-- A column in a failure is at most that behind the trimmed text. -/
theorem column_of_answer {f : Failure} (h : (s.evaluate text).answer = .error (.failure f))
    {column : Int} (hdetails : f.details = [("column", .int column)]) :
    column.natAbs ≤ (Text.trim text).length + 1 := by
  rcases evaluate_cases s text with ⟨g, hread, heq⟩ | ⟨t, v, -, heq⟩
  · rw [heq] at h
    cases h
    rcases read_error_cases hread with hf | ⟨limit, hf⟩ | hf | ⟨e, hparse, hf⟩
    · cases hf
      cases hdetails
    · cases hf
      cases hdetails
    · cases hf
    · cases hf
      cases hdetails
      exact Tree.column_le_of_parse hparse
  · rw [heq] at h
    cases hvalue : Evaluation.ofValue text v <;> rw [hvalue] at h <;> cases h

/-- The envelope of a failure can be written, whatever the request, unless the column behind the
trimmed text has too many digits. -/
theorem envelope_of_answer {f : Failure} (h : (s.evaluate text).answer = .error (.failure f)) :
    (∀ requestId, ∃ body, (f.envelope requestId).write = .ok body) ∨
      10 ^ Decimal.maxDigits ≤ (Text.trim text).length + 1 ∧
        ∀ requestId, (f.envelope requestId).write = .error .tooManyDigits := by
  obtain ⟨hf, -⟩ := isRefusal_of_answer h
  rcases hf.write_envelope with hwritten | ⟨column, u, hdetails, hcolumn, hunwritten⟩
  · exact .inl hwritten
  · obtain ⟨hdigits, rfl⟩ := Decimal.write_eq_error_iff.mp hcolumn
    have hlong : ¬ column.natAbs < 10 ^ Decimal.maxDigits := by
      rw [← Decimal.digitCount_le_iff (by decide)]
      exact Nat.not_le.mpr hdigits
    exact .inr ⟨(Nat.not_lt.mp hlong).trans (column_of_answer h hdetails), hunwritten⟩

end Service

end PrefixCalc
