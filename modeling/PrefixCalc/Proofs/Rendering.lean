import PrefixCalc.Proofs.Numerals
import PrefixCalc.Proofs.ServiceLimits

/-!
# Rendering

What the printed text of a value says of the value: all there is to say. The text of an integer is
its one canonical numeral (`Decimal.isCanonical_iff`); no numeral is the message of an error, and
the messages tell the kinds apart. So values that can be rendered are determined by their texts,
and a result of the service by its output.

## Main results

* `Value.render_injective`: values with the same text are the same.
* `Service.results_are_rendered`: what a result says, and that its output says it all.
-/

namespace PrefixCalc

/-! ### Texts of values -/

namespace Value

/-- The values that can be rendered are the errors and the numbers of at most 4300 digits. -/
theorem exists_render_iff {v : Value} :
    (∃ output, v.render = .ok output) ↔
      ∀ n, v = .number n → Decimal.digitCount n ≤ Decimal.maxDigits := by
  cases v with
  | error k =>
      constructor
      · rintro - n ⟨⟩
      · exact fun _ => ⟨k.message, rfl⟩
  | number n =>
      have hwrite : (∃ output, Decimal.write n = .ok output) ↔
          Decimal.digitCount n ≤ Decimal.maxDigits := by
        rw [← Decimal.writable_iff, Decimal.write]
        cases Decimal.writable n <;> simp
      simpa [render] using hwrite

/-- The text of a number is no message of an error. -/
theorem write_ne_message {n : Int} (k : ErrorKind) : Decimal.write n ≠ .ok k.message := by
  intro h
  have htext := (Decimal.write_eq_ok_iff.mp h).2
  have hletter : 'E' ∈ (Decimal.text n).toList := by
    rw [htext]
    cases k <;> decide
  rcases Decimal.mem_text hletter with h | h
  · exact absurd h (by decide)
  · exact absurd h (by decide)

theorem message_injective {j k : ErrorKind} (h : j.message = k.message) : j = k := by
  cases j <;> cases k <;> first | rfl | exact absurd h (by decide)

/-- **Values with the same text are the same.** -/
theorem render_injective {v w : Value} {output : String} (hv : v.render = .ok output)
    (hw : w.render = .ok output) : v = w := by
  cases v with
  | number m =>
      cases w with
      | number n =>
          rw [render, Decimal.write_eq_ok_iff] at hv hw
          rw [Decimal.text_injective (hv.2.trans hw.2.symm)]
      | error k =>
          cases hw
          exact absurd hv (write_ne_message k)
  | error j =>
      cases hv
      cases w with
      | number n => exact absurd hw (write_ne_message j)
      | error k => rw [message_injective (Except.ok.inj hw)]

end Value

/-! ### Results -/

namespace Evaluation

/-- What a result says when it is the result for a value: it has a number or an error, not both,
and its output is the canonical numeral of the number or the message of the error. -/
def Shows (r : Evaluation) : Value → Prop
  | .number n => r.value = some n ∧ r.error = none ∧ Decimal.IsCanonical r.output.toList n
  | .error k => r.value = none ∧ r.error = some k ∧ r.output = k.message

theorem shows_of_ofValue {expression : String} {v : Value} {r : Evaluation}
    (h : ofValue expression v = .ok r) : v.render = .ok r.output ∧ r.Shows v := by
  cases v with
  | error k =>
      cases h
      exact ⟨rfl, rfl, rfl, rfl⟩
  | number n =>
      cases hwrite : Decimal.write n with
      | error u =>
          simp only [ofValue, Value.render, hwrite] at h
          cases h
      | ok output =>
          simp only [ofValue, Value.render, hwrite] at h
          cases h
          refine ⟨hwrite, rfl, rfl, Decimal.isCanonical_iff.mpr ?_⟩
          rw [(Decimal.write_eq_ok_iff.mp hwrite).2]

/-- A result says of one value only what it says. -/
theorem Shows.fields_eq {r r' : Evaluation} {v : Value} (h : r.Shows v) (h' : r'.Shows v) :
    r.value = r'.value ∧ r.error = r'.error := by
  cases v with
  | number n => exact ⟨h.1.trans h'.1.symm, h.2.1.trans h'.2.1.symm⟩
  | error k => exact ⟨h.1.trans h'.1.symm, h.2.1.trans h'.2.1.symm⟩

end Evaluation

namespace Service

/-- A result of the service is what it says of the value of the tree that it has read. -/
theorem exists_value_of_answer {s : Service} {text : String} {r : Evaluation}
    (h : (s.evaluate text).answer = .ok r) :
    ∃ t v, Tree.parse (Text.trim text) = .ok t ∧ t.evaluate = .ok v ∧
      v.render = .ok r.output ∧ r.Shows v := by
  cases hread : s.read text with
  | error f =>
      rw [answer_of_read_error hread] at h
      cases h
  | ok t =>
      obtain ⟨v, hv⟩ := exists_evaluate_of_read hread
      rw [answer_of_read_ok hread hv] at h
      cases hvalue : Evaluation.ofValue text v with
      | error u =>
          rw [hvalue] at h
          cases h
      | ok e =>
          rw [hvalue] at h
          cases h
          exact ⟨t, v, (read_eq_ok_iff.mp hread).2, hv, Evaluation.shows_of_ofValue hvalue⟩

/-- **Results are rendered values.** A result names the expression as it was given; it has a number
or an error, and not both; and its output, the canonical numeral of the number or the message of
the error, is the rendering of what the tree of the trimmed expression evaluates to. Errors and
numbers of at most 4300 digits can be rendered, and no others; and no two values are rendered
alike, so that results of any two services with the same output have the same number and the same
error. -/
theorem results_are_rendered :
    (∀ (s : Service) (text : String) (r : Evaluation), (s.evaluate text).answer = .ok r →
      r.expression = text ∧
        ((∃ n, r.value = some n ∧ r.error = none ∧ Decimal.IsCanonical r.output.toList n) ∨
          ∃ k, r.value = none ∧ r.error = some k ∧ r.output = k.message) ∧
        ∃ t v, Tree.parse (Text.trim text) = .ok t ∧ t.evaluate = .ok v ∧
          v.render = .ok r.output) ∧
      (∀ (n : Int) (cs : List Char),
        Decimal.IsCanonical cs n ↔ cs = (Decimal.text n).toList) ∧
      (∀ v : Value, (∃ output, v.render = .ok output) ↔
        ∀ n, v = .number n → Decimal.digitCount n ≤ Decimal.maxDigits) ∧
      (∀ (v w : Value) (output : String), v.render = .ok output → w.render = .ok output →
        v = w) ∧
      ∀ (s s' : Service) (text text' : String) (r r' : Evaluation),
        (s.evaluate text).answer = .ok r → (s'.evaluate text').answer = .ok r' →
          r.output = r'.output → r.value = r'.value ∧ r.error = r'.error := by
  refine ⟨?_, fun _ _ => Decimal.isCanonical_iff, fun _ => Value.exists_render_iff,
    fun _ _ _ => Value.render_injective, ?_⟩
  · intro s text r h
    obtain ⟨t, v, hparse, hv, hrender, hshows⟩ := exists_value_of_answer h
    refine ⟨expression_of_answer h, ?_, t, v, hparse, hv, hrender⟩
    cases v with
    | number n => exact .inl ⟨n, hshows⟩
    | error k => exact .inr ⟨k, hshows⟩
  · intro s s' text text' r r' h h' houtput
    obtain ⟨-, v, -, -, hrender, hshows⟩ := exists_value_of_answer h
    obtain ⟨-, w, -, -, hrender', hshows'⟩ := exists_value_of_answer h'
    rw [← houtput] at hrender'
    obtain rfl := Value.render_injective hrender hrender'
    exact hshows.fields_eq hshows'

/-- Two expressions that come to minus five, which no other value is rendered as, and one that comes
to an error. -/
theorem results_are_rendered_of_three :
    let s : Service := {}
    let r : Evaluation := { expression := " - 1 06", output := "-5", value := some (-5) }
    let r' : Evaluation := { expression := "(* 5 -1)", output := "-5", value := some (-5) }
    let k : Evaluation :=
      { expression := "/ 1 0", output := "Error: Division by Zero!", error := some .divisionByZero }
    (s.evaluate " - 1 06").answer = .ok r ∧ (s.evaluate "(* 5 -1)").answer = .ok r' ∧
      (s.evaluate "/ 1 0").answer = .ok k ∧ k.expression = "/ 1 0" ∧
      Decimal.IsCanonical r.output.toList (-5) ∧ r.value = r'.value ∧
      ∀ v : Value, v.render = .ok r.output → v = .number (-5) := by
  intro s r r' k
  have hwrite : Decimal.write (-5) = .ok "-5" :=
    Decimal.write_eq_ok_iff.mpr
      ⟨of_decide_eq_true (Decimal.writable_iff.mpr (by decide)), by decide⟩
  have hnumber : ∀ {text : String} {t : Tree}, s.read text = .ok t →
      t.evaluate = .ok (.number (-5)) →
        (s.evaluate text).answer = .ok { r with expression := text } := by
    intro text t hread hevaluate
    rw [answer_of_read_ok hread hevaluate, Evaluation.ofValue, Value.render, hwrite]
    rfl
  have hr : (s.evaluate " - 1 06").answer = .ok r :=
    hnumber (read_eq_ok_iff.mpr ⟨by decide, rfl⟩) rfl
  have hr' : (s.evaluate "(* 5 -1)").answer = .ok r' :=
    hnumber (read_eq_ok_iff.mpr ⟨by decide, rfl⟩) rfl
  have hk : (s.evaluate "/ 1 0").answer = .ok k := rfl
  obtain ⟨hresults, hcanonical, -, hinjective, houtputs⟩ := results_are_rendered
  refine ⟨hr, hr', hk, (hresults s _ k hk).1, ?_, (houtputs s s _ _ r r' hr hr' rfl).1, ?_⟩
  · exact (hcanonical (-5) "-5".toList).mpr (by decide)
  · exact fun v hv => hinjective v _ "-5" hv hwrite

end Service

end PrefixCalc
