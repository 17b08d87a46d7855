import Mathlib.Algebra.BigOperators.Group.List.Basic
import Mathlib.Algebra.BigOperators.Ring.List
import Mathlib.Data.List.Perm.Basic
import PrefixCalc.Proofs.FirstFault

/-!
# Exact Arithmetic of Many Operands

An application combines its operands one after another. This module says what comes of it when
the operands stand for numbers, without going from one to the next: a number combined with further
ones under `+` and `*` is a sum and a product, under `-` it is the number less the sum of the
others, and under `/` it is one quotient by the product of the others (`Value.together`). None of
this depends on the order of the others.

For the quotient that is not plain, since the evaluator rounds toward zero after every operand.
Rounding a quotient of a rounded quotient is rounding the whole quotient (`tdiv_tdiv`), for all
signs of the numbers and also when a quotient in between is zero.

## Main results

* `isQuotient_iff`: there is one quotient rounded toward zero.
* `Value.combineAll_eq_together`: what numbers come to one after another they come to at once.
* `Tree.evaluate_application_numbers`: what an application of numbers evaluates to.
* `Tree.application_of_numbers_is_exact`: the same, with the operands in any order.
-/

namespace PrefixCalc

/-! ### Quotients rounded toward zero -/

/-- A quotient rounded toward zero: the remainder is smaller than the divisor and has the sign of
the dividend, if it is not zero. -/
def IsQuotient (n p q : Int) : Prop :=
  ∃ r, n = q * p + r ∧ |r| < |p| ∧ (r = 0 ∨ r.sign = n.sign)

theorem isQuotient_tdiv {n p : Int} (hp : p ≠ 0) : IsQuotient n p (n.tdiv p) := by
  refine ⟨n.tmod p, (Int.tdiv_mul_add_tmod n p).symm, ?_, ?_⟩
  · rw [Int.abs_eq_natAbs, Int.abs_eq_natAbs, Int.natAbs_tmod]
    exact_mod_cast Nat.mod_lt _ (Int.natAbs_pos.mpr hp)
  · rw [Int.sign_tmod]
    by_cases hdvd : p ∣ n
    · exact .inl (Int.tmod_eq_zero_of_dvd hdvd)
    · exact .inr (if_neg hdvd)

/-- **There is one quotient rounded toward zero.** -/
theorem isQuotient_iff {n p q : Int} (hp : p ≠ 0) : IsQuotient n p q ↔ q = n.tdiv p := by
  refine ⟨?_, fun h => h ▸ isQuotient_tdiv hp⟩
  rintro ⟨r, hn, hr, hsign⟩
  have hsum : r + p * q = n := by rw [hn, mul_comm, add_comm]
  rw [Int.abs_eq_natAbs, Int.abs_eq_natAbs] at hr
  rcases Int.le_total 0 n with hpos | hneg
  · have hrpos : 0 ≤ r := by
      rcases hsign with rfl | hsign
      · exact le_refl 0
      · rw [← Int.sign_nonneg_iff, hsign, Int.sign_nonneg_iff]
        exact hpos
    exact ((Int.tdiv_tmod_unique hpos hp).mpr ⟨hsum, hrpos, by omega⟩).1.symm
  · have hrneg : r ≤ 0 := by
      rcases hsign with rfl | hsign
      · exact le_refl 0
      · rw [← Int.sign_nonpos_iff, hsign, Int.sign_nonpos_iff]
        exact hneg
    exact ((Int.tdiv_tmod_unique' hneg hp).mpr ⟨hsum, by omega, hrneg⟩).1.symm

/-- A quotient of a quotient is one quotient by the product. -/
theorem tdiv_tdiv (n p q : Int) : (n.tdiv p).tdiv q = n.tdiv (p * q) := by
  have hnat : ∀ n p q : Nat, ((n : Int).tdiv p).tdiv q = (n : Int).tdiv (p * q) := by
    intro n p q
    rw [← Int.ofNat_tdiv, ← Int.ofNat_tdiv, Nat.div_div_eq_div_mul, Int.ofNat_tdiv,
      Int.natCast_mul]
  -- a sign of any of the three numbers can be taken out of both sides
  obtain ⟨n, rfl | rfl⟩ := n.eq_nat_or_neg <;> obtain ⟨p, rfl | rfl⟩ := p.eq_nat_or_neg <;>
    obtain ⟨q, rfl | rfl⟩ := q.eq_nat_or_neg <;>
    simp only [Int.neg_tdiv, Int.tdiv_neg, Int.neg_mul, Int.mul_neg, neg_neg, hnat]

/-! ### Numbers taken together -/

namespace Value

/-- What an operator makes of a number and further numbers, all of them taken at once. -/
def together (operator : String) (n : Int) (ns : List Int) : Value :=
  match operator with
  | "+" => .number (n + ns.sum)
  | "-" => .number (n - ns.sum)
  | "*" => .number (n * ns.prod)
  | "/" => if 0 ∈ ns then .error .divisionByZero else .number (n.tdiv ns.prod)
  | _ => .error .invalidOperator

/-- The numbers behind the first may be taken in any order. -/
theorem together_perm {ms ns : List Int} (h : ms.Perm ns) (operator : String) (n : Int) :
    together operator n ms = together operator n ns := by
  simp only [together, h.sum_eq, h.prod_eq, h.mem_iff]

/-- Under `+` and `*` all numbers may be taken in any order. -/
theorem together_perm_cons {operator : String} (hoperator : operator = "+" ∨ operator = "*")
    {m n : Int} {ms ns : List Int} (h : (m :: ms).Perm (n :: ns)) :
    together operator m ms = together operator n ns := by
  have hsum := h.sum_eq
  have hprod := h.prod_eq
  rw [List.sum_cons, List.sum_cons] at hsum
  rw [List.prod_cons, List.prod_cons] at hprod
  rcases hoperator with rfl | rfl
  · exact congrArg number hsum
  · exact congrArg number hprod

/-! ### Numbers taken one after another -/

/-- A value combined with further numbers, one after another. -/
def combineAll (operator : String) (held : Value) (ns : List Int) : Value :=
  ns.foldl (fun v n => v.combine operator (.number n)) held

theorem combineAll_cons (operator : String) (held : Value) (n : Int) (ns : List Int) :
    combineAll operator held (n :: ns) =
      combineAll operator (held.combine operator (.number n)) ns := rfl

/-- An error is kept. -/
theorem combineAll_error (operator : String) (k : ErrorKind) (ns : List Int) :
    combineAll operator (.error k) ns = .error k := by
  induction ns with
  | nil => rfl
  | cons n ns ih => rw [combineAll_cons, combine_error_left, ih]

/-- Numbers are combined to a number as long as each combination is one. When combining with `a`
and then with `b` is combining with `g a b`, they are put together by `g` first. -/
theorem combineAll_eq_foldr {operator : String} {f g : Int → Int → Int} {e : Int}
    {ns : List Int} (hf : ∀ n ∈ ns, ∀ m, calculate operator m n = .number (f m n))
    (hunit : ∀ m, f m e = m) (hg : ∀ m a b, f (f m a) b = f m (g a b)) (m : Int) :
    combineAll operator (.number m) ns = .number (f m (ns.foldr g e)) := by
  induction ns generalizing m with
  | nil => rw [List.foldr_nil, hunit, combineAll, List.foldl_nil]
  | cons n ns ih =>
      rw [List.forall_mem_cons] at hf
      rw [combineAll_cons, combine_number, hf.1, ih hf.2, hg, List.foldr_cons]

theorem calculate_div {n : Int} (h : n ≠ 0) (m : Int) :
    calculate "/" m n = .number (m.tdiv n) := by
  simp [calculate, operation?, h, truncatedQuotient_eq_tdiv]

/-- A divisor that is zero ends in an error, wherever it stands. -/
theorem combineAll_div_of_mem {ns : List Int} (h : 0 ∈ ns) (m : Int) :
    combineAll "/" (.number m) ns = .error .divisionByZero := by
  induction ns generalizing m with
  | nil => exact absurd h (by simp)
  | cons n ns ih =>
      rw [combineAll_cons, combine_number]
      by_cases hn : n = 0
      · subst hn
        exact combineAll_error "/" _ ns
      · have hns : 0 ∈ ns := (List.mem_cons.mp h).resolve_left (Ne.symm hn)
        rw [calculate_div hn, ih hns]

/-- **What numbers come to one after another is what they come to at once.** -/
theorem combineAll_eq_together (operator : String) (n : Int) {ns : List Int} (hne : ns ≠ []) :
    combineAll operator (.number n) ns = together operator n ns := by
  unfold together
  split
  · exact combineAll_eq_foldr (fun _ _ _ => rfl) add_zero add_assoc n
  · exact combineAll_eq_foldr (fun _ _ _ => rfl) sub_zero sub_sub n
  · exact combineAll_eq_foldr (fun _ _ _ => rfl) mul_one mul_assoc n
  · by_cases hzero : 0 ∈ ns
    · rw [if_pos hzero, combineAll_div_of_mem hzero]
    · have hcalculate : ∀ n ∈ ns, ∀ m, calculate "/" m n = .number (m.tdiv n) :=
        fun n hn => calculate_div fun h => hzero (h ▸ hn)
      rw [if_neg hzero]
      exact combineAll_eq_foldr hcalculate Int.tdiv_one tdiv_tdiv n
  · next hadd hsub hmul hdiv =>
      obtain ⟨m, ns, rfl⟩ := List.exists_cons_of_ne_nil hne
      have hnone : operation? operator = none :=
        operation?_eq_none_iff.mpr (by simpa using ⟨hadd, hsub, hmul, hdiv⟩)
      rw [combineAll_cons, combine_number, calculate, hnone]
      exact combineAll_error operator _ ns

end Value

namespace Tree

/-! ### Applications -/

/-- Trees that stand for numbers, each for the one in its place. -/
def EvaluateTo (ts : List Tree) (ns : List Int) : Prop :=
  List.Forall₂ (fun t n => t.evaluate = .ok (.number n)) ts ns

theorem evaluateRest_numbers {ts : List Tree} {ns : List Int} (h : EvaluateTo ts ns)
    (operator : String) (held : Value) :
    evaluateRest operator held ts = .ok (Value.combineAll operator held ns) := by
  induction h generalizing held with
  | nil => exact evaluateRest_nil operator held
  | cons ht _ ih => rw [evaluateRest_cons ht, ih, Value.combineAll_cons]

/-- An application of two or more numbers evaluates to what they come to at once. -/
theorem evaluate_application_numbers {ts : List Tree} {n : Int} {ns : List Int}
    (h : EvaluateTo ts (n :: ns)) (hne : ns ≠ []) (operator : String) :
    (application operator ts).evaluate = .ok (Value.together operator n ns) := by
  cases h with
  | cons ht hts =>
      rw [evaluate_application ht, evaluateRest_numbers hts,
        Value.combineAll_eq_together operator n hne]

/-- Trees in another order stand for the numbers in another order. -/
theorem EvaluateTo.exists_perm {ts us : List Tree} {ns : List Int} (h : EvaluateTo ts ns)
    (hperm : us.Perm ts) : ∃ ms, EvaluateTo us ms ∧ ms.Perm ns :=
  List.perm_comp_forall₂ hperm h

/-- All operands of a sum or a product may be put in any order. -/
theorem evaluate_application_perm {ts us : List Tree} {n : Int} {ns : List Int}
    (h : EvaluateTo ts (n :: ns)) (hne : ns ≠ []) {operator : String}
    (hoperator : operator = "+" ∨ operator = "*") (hperm : us.Perm ts) :
    (application operator us).evaluate = .ok (Value.together operator n ns) := by
  obtain ⟨ms, hus, hms⟩ := h.exists_perm hperm
  cases ms with
  | nil => exact absurd hms.nil_eq (by simp)
  | cons m ms =>
      have hmne : ms ≠ [] := by
        rintro rfl
        exact hne (by simpa using hms.length_eq)
      rw [evaluate_application_numbers hus hmne, Value.together_perm_cons hoperator hms]

/-- The operands behind the first may be put in any order, under any operator. -/
theorem evaluate_application_perm_rest {t : Tree} {ts us : List Tree} {n : Int} {ns : List Int}
    (h : EvaluateTo (t :: ts) (n :: ns)) (hne : ns ≠ []) (operator : String)
    (hperm : us.Perm ts) :
    (application operator (t :: us)).evaluate = .ok (Value.together operator n ns) := by
  cases h with
  | cons ht hts =>
      obtain ⟨ms, hus, hms⟩ := EvaluateTo.exists_perm hts hperm
      have hmne : ms ≠ [] := by
        rintro rfl
        exact hne hms.nil_eq.symm
      rw [evaluate_application_numbers (.cons ht hus) hmne, Value.together_perm hms]

/-- **Arithmetic is exact.** An application of two or more operands that stand for numbers has
the value that the numbers come to at once; a quotient by a product that is not zero is the one
that is rounded toward zero. So the operands of a sum and of a product may be put in any order,
and those of a difference and of a quotient behind the first. -/
theorem application_of_numbers_is_exact {t : Tree} {ts : List Tree} {n : Int} {ns : List Int}
    (h : EvaluateTo (t :: ts) (n :: ns)) (hne : ns ≠ []) (operator : String) :
    (application operator (t :: ts)).evaluate = .ok (Value.together operator n ns) ∧
      (0 ∉ ns → ∀ q, IsQuotient n ns.prod q ↔ q = n.tdiv ns.prod) ∧
      (operator = "+" ∨ operator = "*" → ∀ us : List Tree, us.Perm (t :: ts) →
        (application operator us).evaluate = (application operator (t :: ts)).evaluate) ∧
      (operator = "-" ∨ operator = "/" → ∀ us : List Tree, us.Perm ts →
        (application operator (t :: us)).evaluate =
          (application operator (t :: ts)).evaluate) := by
  have hevaluate := evaluate_application_numbers h hne operator
  refine ⟨hevaluate, ?_, ?_, ?_⟩
  · exact fun hzero q => isQuotient_iff (List.prod_ne_zero hzero)
  · intro hoperator us hperm
    rw [hevaluate, evaluate_application_perm h hne hoperator hperm]
  · intro _ us hperm
    rw [hevaluate, evaluate_application_perm_rest h hne operator hperm]

/-- Minus seven, divided by two and by minus two, is one: the quotient in between is rounded to
minus three, the whole one from seven quarters. -/
theorem application_of_numbers_is_exact_of_three :
    let ts : List Tree := [.leaf "-7", .leaf "2", .application "-" [.leaf "1", .leaf "3"]]
    EvaluateTo ts [-7, 2, -2] ∧ (application "/" ts).evaluate = .ok (.number 1) ∧
      IsQuotient (-7) (2 * -2) 1 := by
  intro ts
  have hts : EvaluateTo ts [-7, 2, -2] := .cons rfl (.cons rfl (.cons rfl .nil))
  obtain ⟨hevaluate, hquotient, -⟩ := application_of_numbers_is_exact hts (by simp) "/"
  refine ⟨hts, hevaluate, ?_⟩
  exact (hquotient (by decide) 1).mpr (by decide)

end Tree

end PrefixCalc
