import Mathlib.Data.List.DropRight
import Mathlib.Tactic.Ring
import PrefixCalc.Decimal.Shortest
import PrefixCalc.Proofs.Numerals

/-!
# The Shortest Digits Are Digits

The search for the fewest digits of a number goes from coarser to finer grids and gives up behind
the seventeenth, with what is left of the number when its fraction is cut off. For a number below
one that would be no digits at all. This module shows that it does not come to that: on the
seventeenth grid one of the two neighbours of the number rounds to it (`exists_onGrid_seventeenth`),
because the grid is finer than the spacing of the binary numbers there.

That takes two comparisons of powers. The grid is chosen by an estimate of the logarithm, which
must not be too high (`reaches_estimate`), so that the number has sixteen places in front of the
last digit; and `2 ^ 53`, the bound of the coefficients, is below `10 ^ 16`.

## Main results

* `Real64.exists_onGrid_seventeenth`: seventeen digits suffice for a number below one.
* `Real64.shortest_digits`: the digits of a number are one digit that is not zero, and digits.
-/

namespace PrefixCalc.Real64

/-! ### The number of places -/

/-- Powers are compared by one comparison of powers with the same ratio of exponents, or a greater
one. -/
theorem pow_le_pow_of_ratio {a e b f m n : Nat} (h : a ^ e ≤ b ^ f) (he : e ≠ 0) (hb : 0 < b)
    (hratio : f * m ≤ e * n) : a ^ m ≤ b ^ n := by
  refine (Nat.pow_le_pow_iff_left he).mp ?_
  calc (a ^ m) ^ e = (a ^ e) ^ m := by rw [← pow_mul, ← pow_mul, Nat.mul_comm]
    _ ≤ (b ^ f) ^ m := Nat.pow_le_pow_left h m
    _ = b ^ (f * m) := (pow_mul b f m).symm
    _ ≤ b ^ (e * n) := Nat.pow_le_pow_right hb hratio
    _ = (b ^ n) ^ e := by rw [← pow_mul, Nat.mul_comm]

/-- The decimal logarithm of two is at most 0.30103. -/
theorem two_pow_le_ten_pow {m n : Nat} (h : 30103 * m ≤ 100000 * n) : 2 ^ m ≤ 10 ^ n :=
  pow_le_pow_of_ratio (by decide +kernel : 2 ^ 100000 ≤ 10 ^ 30103) (by decide) (by decide) h

/-- A quotient reaches the power of ten that is so many places behind the point. -/
def Reaches (num den places : Nat) : Prop :=
  den ≤ num * 10 ^ places

variable {num den : Nat}

theorem decimalPlaces_succ {k : Int} (hk : k ≤ 0) (steps : Nat) :
    decimalPlaces num den (steps + 1) k =
      if num * 10 ^ (-k).toNat < den then k else decimalPlaces num den steps (k + 1) := by
  rcases Int.lt_or_eq_of_le hk with hneg | rfl
  · simp only [decimalPlaces, if_neg (Int.not_le.mpr hneg), Nat.pow_eq]
  · simp [decimalPlaces]

/-- The search for the number of places goes up from its start to zero at most, and the quotient
reaches the power before the one at which it stops. -/
theorem decimalPlaces_spec {steps : Nat} {k : Int} (hk : k ≤ 0) (hsmall : num < den)
    (hstart : Reaches num den (1 - k).toNat) :
    decimalPlaces num den steps k ≤ 0 ∧
      Reaches num den (1 - decimalPlaces num den steps k).toNat := by
  induction steps generalizing k with
  | zero => exact ⟨hk, hstart⟩
  | succ steps ih =>
      rw [decimalPlaces_succ hk]
      split_ifs with hstop
      · exact ⟨hk, hstart⟩
      · have hnegative : k ≠ 0 := by
          rintro rfl
          exact hstop (by simpa using hsmall)
        refine ih (by omega) ?_
        have hplaces : (1 - (k + 1)).toNat = (-k).toNat := by omega
        rw [hplaces]
        exact Nat.not_lt.mp hstop

/-- The estimate at which the search starts is not too high. -/
theorem reaches_estimate (hnum : num ≠ 0) (hsmall : num < den) :
    let start := ((num.log2 : Int) - den.log2) * 30103 / 100000 - 2
    start ≤ 0 ∧ Reaches num den (1 - start).toNat := by
  intro start
  have hden : den < 2 ^ (den.log2 + 1) := Nat.lt_log2_self
  have hlow : 2 ^ num.log2 ≤ num := Nat.log2_self_le hnum
  have hlog : num.log2 ≤ den.log2 := (Nat.le_log2 (by omega)).mpr (hlow.trans hsmall.le)
  have hpower : 2 ^ (den.log2 + 1 - num.log2) ≤ 10 ^ (1 - start).toNat :=
    two_pow_le_ten_pow (by omega)
  refine ⟨by omega, ?_⟩
  calc den ≤ 2 ^ (den.log2 + 1) := hden.le
    _ = 2 ^ num.log2 * 2 ^ (den.log2 + 1 - num.log2) := by
        rw [← Nat.pow_add]
        congr 1
        omega
    _ ≤ num * 10 ^ (1 - start).toNat := Nat.mul_le_mul hlow hpower

/-! ### Grids -/

namespace Interval

variable {i : Interval} {k : Int} {d : Nat}

/-- What a grid has for an interval is not zero. -/
theorem pos_of_onGrid (h : i.onGrid k = some d) : 0 < d := by
  rw [onGrid] at h
  generalize i.value * (if 0 ≤ k then 1 else Nat.pow 10 (-k).toNat) = num at h
  generalize i.den * (if 0 ≤ k then Nat.pow 10 k.toNat else 1) = den at h
  split at h
  · next hlower _ =>
    rw [Bool.and_eq_true, bne_iff_ne] at hlower
    dsimp only at h
    split_ifs at h
    · cases h
      exact Nat.pos_of_ne_zero hlower.2
    · cases h
      exact Nat.succ_pos _
  · next hlower _ =>
    rw [Bool.and_eq_true, bne_iff_ne] at hlower
    cases h
    exact Nat.pos_of_ne_zero hlower.2
  · cases h
    exact Nat.succ_pos _
  · cases h

/-- Where a neighbour of the value is in the interval, the grid has something for it. -/
theorem exists_onGrid {places : Nat} (hplaces : 0 < places)
    (hlower : i.value * 10 ^ places / i.den ≠ 0)
    (h : i.holds (i.value * 10 ^ places / i.den) (-places) = true ∨
      i.holds (i.value * 10 ^ places / i.den + 1) (-places) = true) :
    ∃ d, i.onGrid (-places) = some d := by
  have hnegative : ¬ (0 : Int) ≤ -places := by omega
  have hsize : (-(-(places : Int))).toNat = places := by omega
  simp only [onGrid, if_neg hnegative, hsize, Nat.pow_eq, Nat.mul_one]
  split
  · split_ifs
    · exact ⟨_, rfl⟩
    · exact ⟨_, rfl⟩
  · exact ⟨_, rfl⟩
  · exact ⟨_, rfl⟩
  · next hoff habove =>
    rw [habove, or_iff_left Bool.false_ne_true] at h
    rw [h, Bool.true_and, bne_eq_false_iff_eq] at hoff
    exact absurd hoff hlower

/-- A fraction strictly between the ends is in the interval. -/
theorem holds_of_lt {places : Nat} (hplaces : 0 < places)
    (hbelow : i.below * 10 ^ places < d * i.den) (habove : d * i.den < i.above * 10 ^ places) :
    i.holds d (-places) = true := by
  have hnegative : ¬ (0 : Int) ≤ -places := by omega
  have hsize : (-(-(places : Int))).toNat = places := by omega
  simp only [holds, if_neg hnegative, hsize, Nat.pow_eq, Nat.mul_one]
  split
  · simp [hbelow.le, habove.le]
  · simp [hbelow, habove]

/-- The search ends with something when the last grid has it. -/
theorem pos_search {places : Int} {finer n : Nat}
    (h : i.onGrid (places - (n + finer : Nat)) = some d) :
    0 < (i.search places (finer + 1) n).1 := by
  induction finer generalizing n with
  | zero =>
      rw [Nat.add_zero] at h
      rw [search, h]
      exact pos_of_onGrid h
  | succ finer ih =>
      rw [search]
      split
      · next hfound => exact pos_of_onGrid hfound
      · exact ih (by rwa [Nat.add_right_comm, Nat.add_assoc])

/-- The search ends with something when the value is at least one. -/
theorem pos_search_of_le (hden : 0 < i.den) (h : i.den ≤ i.value) (places : Int) (finer n : Nat) :
    0 < (i.search places finer n).1 := by
  induction finer generalizing n with
  | zero => exact Nat.div_pos h hden
  | succ finer ih =>
      rw [search]
      split
      · next hfound => exact pos_of_onGrid hfound
      · exact ih (n + 1)

end Interval

/-! ### Seventeen digits -/

/-- The interval of a number with a negative exponent, its narrow side measured by `gap`. -/
theorem exists_interval (m : Nat) {q : Int} (hq : q < 0) :
    ∃ gap, (gap = 1 ∧ m * 2 = coefficientBound ∨ gap = 2) ∧
      (interval m q).below = 4 * m - gap ∧ (interval m q).value = 4 * m ∧
      (interval m q).above = 4 * m + 2 ∧ (interval m q).den = 4 * 2 ^ (-q).toNat := by
  have hnegative : ¬ 0 ≤ q := by omega
  simp only [interval, if_neg hnegative, Nat.mul_one, Nat.pow_eq]
  split_ifs with hnarrow
  · exact ⟨1, .inl ⟨rfl, hnarrow.1⟩, rfl, trivial, trivial, trivial⟩
  · exact ⟨2, .inr rfl, rfl, trivial, trivial, trivial⟩

/-- One of the two neighbours of `4 * m * s` among the multiples of `den` is nearer to it than the
ends of the interval. -/
theorem neighbour_between {m gap s den : Nat} (hm : 0 < m) (hbound : m < coefficientBound)
    (hgap : gap = 1 ∧ m * 2 = coefficientBound ∨ gap = 2) (hs : 0 < s) (hden : 0 < den)
    (hspacing : den * 10 ^ 16 ≤ 4 * m * s) :
    let lower := 4 * m * s / den
    ((4 * m - gap) * s < lower * den ∧ lower * den < (4 * m + 2) * s) ∨
      (4 * m - gap) * s < (lower + 1) * den ∧ (lower + 1) * den < (4 * m + 2) * s := by
  intro lower
  have hsplit : lower * den + 4 * m * s % den = 4 * m * s := Nat.div_add_mod' _ _
  have hupper : (lower + 1) * den = lower * den + den := Nat.succ_mul lower den
  have habove : (4 * m + 2) * s = 4 * m * s + 2 * s := Nat.add_mul _ _ _
  have hbelow : (4 * m - gap) * s = 4 * m * s - gap * s := Nat.sub_mul _ _ _
  have hrest : 2 * s ≤ 4 * m * s := Nat.mul_le_mul_right s (by omega)
  have hvalue : coefficientBound = 9007199254740992 := by decide
  have hmod : 4 * m * s % den < den := Nat.mod_lt _ hden
  rw [habove, hbelow, hupper]
  rw [hvalue] at hbound hgap
  rcases hgap with ⟨rfl, hhalf⟩ | rfl
  · -- below a power of two the gap is half as wide, but the grid is finer than that, too
    have hm' : m = 4503599627370496 := by omega
    subst hm'
    right
    omega
  · have hfine : den < 4 * s := by
      have hproduct : 4 * m * s ≤ 4 * 9007199254740991 * s :=
        Nat.mul_le_mul_right s (by omega)
      omega
    omega

/-- **Seventeen digits suffice** for a number below one: on the grid with sixteen places behind its
first digit a neighbour of the number rounds to the number. -/
theorem exists_onGrid_seventeenth {m : Nat} {q : Int} (hm : 0 < m) (hbound : m < coefficientBound)
    (hq : q < 0) {places : Nat} (hplaces : 16 < places)
    (hreaches : Reaches (interval m q).value (interval m q).den (places - 16)) :
    ∃ d, (interval m q).onGrid (-places) = some d := by
  obtain ⟨gap, hgap, hbelow, hvalue, habove, hden⟩ := exists_interval m hq
  have hpow : 10 ^ places = 10 ^ (places - 16) * 10 ^ 16 := by
    rw [← Nat.pow_add, Nat.sub_add_cancel hplaces.le]
  have hspacing : (interval m q).den * 10 ^ 16 ≤ 4 * m * 10 ^ places := by
    rw [hpow, ← Nat.mul_assoc, ← hvalue]
    exact Nat.mul_le_mul_right _ hreaches
  have hs : 0 < 10 ^ places := Nat.pow_pos (by decide)
  have hpos : 0 < (interval m q).den := by
    rw [hden]
    exact Nat.mul_pos (by decide) (Nat.pow_pos (by decide))
  refine Interval.exists_onGrid (by omega) ?_ ?_
  · rw [hvalue, Nat.div_ne_zero_iff]
    omega
  · rw [hvalue]
    refine (neighbour_between hm hbound hgap hs hpos hspacing).imp ?_ ?_
    · rintro ⟨hlow, hhigh⟩
      exact Interval.holds_of_lt (by omega) (hbelow ▸ hlow) (habove ▸ hhigh)
    · rintro ⟨hlow, hhigh⟩
      exact Interval.holds_of_lt (by omega) (hbelow ▸ hlow) (habove ▸ hhigh)

/-! ### Digits -/

/-- A positive number with an exponent that is not negative is at least one. -/
theorem den_le_value {m : Nat} {q : Int} (hm : 0 < m) (hq : 0 ≤ q) :
    0 < (interval m q).den ∧ (interval m q).den ≤ (interval m q).value := by
  have hpow : 0 < 2 ^ q.toNat := Nat.pow_pos (by decide)
  have hproduct : 0 < m * 2 ^ q.toNat := Nat.mul_pos hm hpow
  simp only [interval, if_pos hq, Nat.pow_eq, Nat.mul_assoc]
  omega

/-- The search for the digits of a positive number ends with something. -/
theorem pos_search {m : Nat} {q : Int} (hm : 0 < m) (hbound : m < coefficientBound) :
    let i := interval m q
    let bits : Int := (i.value.log2 : Int) - i.den.log2
    0 < (i.search (decimalPlaces i.value i.den 8 (bits * 30103 / 100000 - 2)) 17 1).1 := by
  intro i bits
  rcases Int.lt_or_le q 0 with hq | hq
  · obtain ⟨-, -, -, hvalue, -, hden⟩ := exists_interval m hq
    have hpos : 0 < i.den := by
      rw [hden]
      exact Nat.mul_pos (by decide) (Nat.pow_pos (by decide))
    rcases Nat.lt_or_ge i.value i.den with hsmall | hgreat
    · have hnum : i.value ≠ 0 := by
        rw [hvalue]
        omega
      obtain ⟨hstart, hreaches⟩ := reaches_estimate hnum hsmall
      obtain ⟨hplaces, hreaches⟩ := decimalPlaces_spec hstart hsmall hreaches
      generalize decimalPlaces i.value i.den 8 (bits * 30103 / 100000 - 2) = places at *
      have hsame : (1 - places).toNat = (17 - places).toNat - 16 := by omega
      obtain ⟨d, hd⟩ := exists_onGrid_seventeenth hm hbound hq (by omega) (hsame ▸ hreaches)
      have hgrid : -((17 - places).toNat : Int) = places - (1 + 16 : Nat) := by omega
      exact Interval.pos_search (hgrid ▸ hd)
    · exact Interval.pos_search_of_le hpos hgreat _ 17 1
  · obtain ⟨hpos, hgreat⟩ := den_le_value hm hq
    exact Interval.pos_search_of_le hpos hgreat _ 17 1

/-- The first digit of a positive natural is no zero, and stays when zeros at the end go. -/
theorem significant_eq_cons {n : Nat} (hn : 0 < n) :
    ∃ c cs, significant n = c :: cs ∧ c ≠ '0' ∧ ∀ d ∈ c :: cs, d.isDigit = true := by
  have hends : significant n = (Nat.toDigits 10 n).rdropWhile (· == '0') := rfl
  have hfirst : (Nat.toDigits 10 n).head? ≠ some '0' := by
    intro hhead
    have hdenotes := Decimal.digitsDenote_toDigits n
    rw [Decimal.noLeadingZero_toDigits n hhead, Decimal.digitsDenote_iff] at hdenotes
    have hzero : Decimal.ofDigits ['0'] = 0 := by decide
    omega
  cases hdigits : Nat.toDigits 10 n with
  | nil => exact absurd hdigits Nat.toDigits_ne_nil
  | cons c cs =>
      rw [hdigits] at hends hfirst
      have hc : c ≠ '0' := fun h => hfirst (by rw [h, List.head?_cons])
      have hprefix := List.rdropWhile_prefix (· == '0') (c :: cs)
      rw [← hends] at hprefix
      cases hkept : significant n with
      | nil =>
          have hall := List.rdropWhile_eq_nil_iff.mp (hends.symm.trans hkept)
          exact absurd (hall c List.mem_cons_self) (by simpa using hc)
      | cons d ds =>
          have hmem := hprefix.subset
          rw [hkept, List.cons_prefix_cons] at hprefix
          refine ⟨d, ds, rfl, hprefix.1 ▸ hc, fun e he => ?_⟩
          have hdigit : e ∈ Nat.toDigits 10 n := by
            rw [hdigits]
            exact hmem (hkept ▸ he)
          exact Decimal.isDigit_of_mem_toDigits hdigit

/-- **The shortest digits of a positive number** are a digit that is not zero, and digits. -/
theorem shortest_digits {m : Nat} (hm : 0 < m) (hbound : m < coefficientBound) (q : Int) :
    ∃ c cs, (shortest m q).1 = c :: cs ∧ c ≠ '0' ∧ ∀ d ∈ c :: cs, d.isDigit = true :=
  significant_eq_cons (pos_search hm hbound)

end PrefixCalc.Real64
