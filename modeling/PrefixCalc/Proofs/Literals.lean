import Mathlib.Tactic.Ring
import PrefixCalc.Value

/-!
# Literals

The evaluator reads a literal by its digits: leading zeros are dropped, and a literal of more
than `Value.literalDigits` digits is refused before it is converted. This module gives the
reading that the digits are counted for, without the count: a literal is a number when it is a
numeral, of any length, and the integer that it stands for is in range (`Value.literal?`).

The two agree because the first digit behind the zeros is not zero, so that a numeral with more
than 19 of them stands for at least `10 ^ 19`, which is out of range on either side.

## Main results

* `Decimal.ofDigits_lt`, `Decimal.pow_le_ofDigits`: the size of a number by its digits.
* `Value.ofLiteral_eq_literal?`: the evaluator reads what a literal stands for.
* `Value.natAbs_lt_of_literal?`: a literal has at least as many characters as digits.
-/

namespace PrefixCalc

namespace Decimal

/-! ### Digits and size -/

/-- The value of a digit. -/
theorem toNat_sub_lt_ten {c : Char} (h : c.isDigit = true) : c.toNat - '0'.toNat < 10 := by
  simp only [Char.isDigit, Bool.and_eq_true, decide_eq_true_eq, ge_iff_le,
    UInt32.le_iff_toNat_le] at h
  obtain ⟨-, hle⟩ := h
  have hnine : '9'.val.toNat = 57 := rfl
  have hzero : '0'.toNat = 48 := rfl
  rw [hnine] at hle
  rw [hzero, Char.toNat]
  omega

theorem toNat_sub_pos {c : Char} (h : c.isDigit = true) (hne : c ≠ '0') :
    0 < c.toNat - '0'.toNat := by
  simp only [Char.isDigit, Bool.and_eq_true, decide_eq_true_eq, ge_iff_le,
    UInt32.le_iff_toNat_le] at h
  obtain ⟨hge, -⟩ := h
  have hval : c.val.toNat ≠ '0'.val.toNat := by
    intro heq
    exact hne (Char.ext (UInt32.toNat_inj.mp heq))
  rw [Char.toNat, Char.toNat]
  omega

@[simp] theorem ofDigits_nil : ofDigits [] = 0 := by
  rw [ofDigits, Nat.ofDigitChars_nil]

theorem ofDigits_cons (c : Char) (cs : List Char) :
    ofDigits (c :: cs) = 10 ^ cs.length * (c.toNat - '0'.toNat) + ofDigits cs := by
  rw [ofDigits, Nat.ofDigitChars_cons, Nat.ofDigitChars_eq_ofDigitChars_zero, Nat.mul_zero,
    Nat.zero_add, ofDigits]

/-- A number is less than the power of ten with as many zeros as it has digits. -/
theorem ofDigits_lt {ds : List Char} (h : ∀ c ∈ ds, c.isDigit = true) :
    ofDigits ds < 10 ^ ds.length := by
  induction ds with
  | nil => simp
  | cons c cs ih =>
      rw [List.forall_mem_cons] at h
      have hrest := ih h.2
      have hdigit : c.toNat - '0'.toNat ≤ 9 := Nat.le_of_lt_succ (toNat_sub_lt_ten h.1)
      rw [ofDigits_cons, List.length_cons, pow_succ]
      calc 10 ^ cs.length * (c.toNat - '0'.toNat) + ofDigits cs
          ≤ 10 ^ cs.length * 9 + ofDigits cs :=
            Nat.add_le_add_right (Nat.mul_le_mul_left _ hdigit) _
        _ < 10 ^ cs.length * 9 + 10 ^ cs.length := Nat.add_lt_add_left hrest _
        _ = 10 ^ cs.length * 10 := by ring

/-- A number whose first digit is not zero is at least the power of ten with one zero fewer than
it has digits. -/
theorem pow_le_ofDigits {c : Char} {cs : List Char} (h : c.isDigit = true) (hne : c ≠ '0') :
    10 ^ cs.length ≤ ofDigits (c :: cs) := by
  rw [ofDigits_cons]
  exact Nat.le_add_right_of_le (Nat.le_mul_of_pos_right _ (toNat_sub_pos h hne))

/-- Leading zeros add nothing. -/
theorem ofDigits_dropWhile_zero (ds : List Char) :
    ofDigits (ds.dropWhile (· == '0')) = ofDigits ds := by
  induction ds with
  | nil => rfl
  | cons c cs ih =>
      by_cases hc : c = '0'
      · subst hc
        rw [List.dropWhile_cons_of_pos (by simp), ih, ofDigits_cons, Nat.sub_self, Nat.mul_zero,
          Nat.zero_add]
      · rw [List.dropWhile_cons_of_neg (by simpa using hc)]

/-- The digits of a numeral. -/
theorem isNumeral_iff {cs : List Char} :
    isNumeral cs = true ↔
      (splitSign cs).2 ≠ [] ∧ ∀ c ∈ (splitSign cs).2, c.isDigit = true := by
  simp [isNumeral]

theorem length_splitSign_le (cs : List Char) : (splitSign cs).2.length ≤ cs.length := by
  unfold splitSign
  split
  · exact Nat.le_succ _
  · exact Nat.le_refl _

theorem natAbs_signed (negative : Bool) (n : Nat) : (signed negative n).natAbs = n := by
  cases negative <;> simp [signed]

end Decimal

namespace Value

/-! ### What a literal stands for -/

/-- The integer that a literal stands for, when it is a numeral and the integer is in range. -/
def literal? (s : String) : Option Int :=
  if Decimal.isNumeral s.toList ∧ literalMin ≤ Decimal.ofNumeral s.toList ∧
      Decimal.ofNumeral s.toList ≤ literalMax then
    some (Decimal.ofNumeral s.toList)
  else none

theorem literal?_eq_some_iff {s : String} {n : Int} :
    literal? s = some n ↔
      Decimal.isNumeral s.toList = true ∧ Decimal.ofNumeral s.toList = n ∧
        literalMin ≤ n ∧ n ≤ literalMax := by
  unfold literal?
  split
  · next h =>
      rw [Option.some.injEq]
      constructor
      · rintro rfl
        exact ⟨h.1, rfl, h.2⟩
      · rintro ⟨-, rfl, -⟩
        rfl
  · next h =>
      refine ⟨fun hsome => absurd hsome (by simp), ?_⟩
      rintro ⟨hnumeral, rfl, hrange⟩
      exact absurd ⟨hnumeral, hrange⟩ h

theorem literalMin_eq : literalMin = -9223372036854775808 := rfl

theorem literalMax_eq : literalMax = 9223372036854775807 := rfl

/-- More than 19 digits behind the leading zeros are out of range under either sign. -/
theorem not_in_range_of_length {ds : List Char} (hdigits : ∀ c ∈ ds, c.isDigit = true)
    (hlong : literalDigits < (ds.dropWhile (· == '0')).length) (negative : Bool) :
    ¬ (literalMin ≤ Decimal.signed negative (Decimal.ofDigits ds) ∧
      Decimal.signed negative (Decimal.ofDigits ds) ≤ literalMax) := by
  obtain ⟨c, cs, hcs⟩ := List.exists_cons_of_length_pos (Nat.lt_of_le_of_lt (Nat.zero_le _) hlong)
  have hc : c ≠ '0' := by
    have hhead := List.head?_dropWhile_not (· == '0') ds
    rw [hcs] at hhead
    simpa using hhead
  have hdigit : c.isDigit = true := by
    refine hdigits c ?_
    have hmem : c ∈ ds.dropWhile (· == '0') := by
      rw [hcs]
      exact List.mem_cons_self ..
    exact (List.dropWhile_sublist _).mem hmem
  have hlarge : 10 ^ 19 ≤ Decimal.ofDigits ds := by
    rw [← Decimal.ofDigits_dropWhile_zero ds, hcs]
    rw [hcs, List.length_cons, literalDigits] at hlong
    exact Nat.le_trans (Nat.pow_le_pow_right (by decide) (Nat.le_of_lt_succ hlong))
      (Decimal.pow_le_ofDigits hdigit hc)
  have hpow : (10 : Nat) ^ 19 = 10000000000000000000 := by norm_num
  rw [hpow] at hlarge
  rw [literalMin_eq, literalMax_eq]
  cases negative with
  | false =>
      rw [Decimal.signed, if_neg (by simp)]
      omega
  | true =>
      rw [Decimal.signed, if_pos rfl]
      omega

/-- The evaluator's reading, with the leading zeros put back. -/
theorem ofLiteral_eq (s : String) :
    ofLiteral s =
      if Decimal.isNumeral s.toList ∧
          ((Decimal.splitSign s.toList).2.dropWhile (· == '0')).length ≤ literalDigits ∧
          literalMin ≤ Decimal.ofNumeral s.toList ∧ Decimal.ofNumeral s.toList ≤ literalMax then
        .number (Decimal.ofNumeral s.toList)
      else .error .invalidNumber := by
  simp only [ofLiteral, Decimal.ofDigits_dropWhile_zero, ite_and]
  rfl

/-- **The evaluator reads what a literal stands for**: the count of digits changes nothing. -/
theorem ofLiteral_eq_literal? (s : String) :
    ofLiteral s = (literal? s).elim (.error .invalidNumber) .number := by
  rw [ofLiteral_eq]
  cases hread : literal? s with
  | some n =>
      obtain ⟨hnumeral, rfl, hrange⟩ := literal?_eq_some_iff.mp hread
      have hshort : ((Decimal.splitSign s.toList).2.dropWhile (· == '0')).length ≤
          literalDigits := by
        by_contra hlong
        exact not_in_range_of_length (Decimal.isNumeral_iff.mp hnumeral).2
          (Nat.lt_of_not_le hlong) _ hrange
      rw [if_pos ⟨hnumeral, hshort, hrange⟩]
      rfl
  | none =>
      rw [if_neg]
      · rfl
      · rintro ⟨hnumeral, -, hrange⟩
        rw [literal?_eq_some_iff.mpr ⟨hnumeral, rfl, hrange⟩] at hread
        exact absurd hread (by simp)

/-- A literal has at least as many characters as the integer that it stands for has digits. -/
theorem natAbs_lt_of_literal? {s : String} {n : Int} (h : literal? s = some n) :
    n.natAbs < 10 ^ s.length := by
  obtain ⟨hnumeral, rfl, -⟩ := literal?_eq_some_iff.mp h
  have hlt := Decimal.ofDigits_lt (Decimal.isNumeral_iff.mp hnumeral).2
  have hlength := Decimal.length_splitSign_le s.toList
  rw [String.length_toList] at hlength
  rw [Decimal.ofNumeral, Decimal.natAbs_signed]
  exact Nat.lt_of_lt_of_le hlt (Nat.pow_le_pow_right (by decide) hlength)

end Value

end PrefixCalc
