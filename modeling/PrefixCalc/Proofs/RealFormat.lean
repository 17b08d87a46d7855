import Mathlib.Algebra.Order.Field.Power
import Mathlib.Algebra.Order.Field.Rat
import Mathlib.Tactic.NormNum
import Mathlib.Tactic.Ring
import PrefixCalc.Decimal.Real

/-!
# Rounded Numbers Are in the Format

Numbers come about by rounding a quotient of naturals (`Real64.ofRatio`). The exponent is chosen
from the binary lengths of the two, and then corrected by one where that leaves a bit too many
(`Real64.normalExponent`). So the scaled quotient is below `2 ^ 53` (`Real64.scaled_div_lt`), and
rounding takes it at most to that bound; there it is halved. The coefficient of every number that
is made is therefore below the bound (`Real64.InFormat`).

## Main results

* `Real64.inFormat_ofRatio`, `Real64.inFormat_ofDecimal`: rounded numbers are in the format.
-/

namespace PrefixCalc.Real64

/-- The coefficient of a number that is finite lies below the bound of the format. -/
def InFormat : Real64 → Prop
  | .finite _ m _ => m < coefficientBound
  | _ => True

variable {num den bound : Nat} {q : Int}

theorem roundHalfEven_le (num den : Nat) : roundHalfEven num den ≤ num / den + 1 := by
  simp only [roundHalfEven]
  split_ifs <;> omega

/-- How a scaled quotient compares with a bound, in terms of the quotient itself. -/
theorem scaled_div_lt_iff (hden : 0 < den) :
    (scaled num den q).1 / (scaled num den q).2 < bound ↔ (num : ℚ) < bound * den * 2 ^ q := by
  rw [scaled]
  split
  · next hq =>
    obtain ⟨k, rfl⟩ := Int.eq_ofNat_of_zero_le hq
    have hpos : 0 < den * Nat.pow 2 k := Nat.mul_pos hden (Nat.pow_pos (by decide))
    dsimp only
    rw [Int.toNat_natCast, Nat.div_lt_iff_lt_mul hpos, Nat.pow_eq, ← Nat.mul_assoc, zpow_natCast]
    norm_cast
  · next hq =>
    obtain ⟨k, hk⟩ : ∃ k : Nat, q = -k := ⟨q.natAbs, by omega⟩
    subst hk
    dsimp only
    rw [neg_neg, Int.toNat_natCast, Nat.div_lt_iff_lt_mul hden, Nat.pow_eq, zpow_neg, zpow_natCast,
      ← div_eq_mul_inv, lt_div_iff₀ (by positivity)]
    norm_cast

/-- **A quotient scaled to its normal exponent or a greater one is below the bound.** -/
theorem scaled_div_lt (hden : 0 < den) (hq : normalExponent num den ≤ q) :
    (scaled num den q).1 / (scaled num den q).2 < coefficientBound := by
  have hmono : ∀ {e : Int}, (num : ℚ) < coefficientBound * den * 2 ^ e → e ≤ q →
      (num : ℚ) < coefficientBound * den * 2 ^ q := fun h he =>
    h.trans_le (mul_le_mul_of_nonneg_left (zpow_le_zpow_right₀ (by norm_num) he) (by positivity))
  rw [scaled_div_lt_iff hden]
  simp only [normalExponent] at hq
  split at hq
  · next hfits => exact hmono ((scaled_div_lt_iff hden).mp hfits) hq
  · -- one more than the difference of the lengths leaves room for the lengths to be rounded down
    refine hmono ?_ hq
    have hnum : (num : ℚ) < 2 ^ (num.log2 + 1) := by exact_mod_cast Nat.lt_log2_self
    have hlow : (2 : ℚ) ^ den.log2 ≤ den := by exact_mod_cast Nat.log2_self_le hden.ne'
    have hbound : ((coefficientBound : Nat) : ℚ) = 2 ^ 53 := by norm_num [coefficientBound]
    refine hnum.trans_le ?_
    calc (2 : ℚ) ^ (num.log2 + 1)
        = 2 ^ 53 * 2 ^ den.log2 * 2 ^ ((num.log2 : Int) - den.log2 - 53 + 1) := by
          rw [← zpow_natCast, ← zpow_natCast, ← zpow_natCast, ← zpow_add₀ two_ne_zero,
            ← zpow_add₀ two_ne_zero]
          congr 1
          push_cast
          ring
      _ ≤ coefficientBound * den * 2 ^ ((num.log2 : Int) - den.log2 - 53 + 1) := by
          rw [hbound]
          gcongr

/-- **A rounded quotient is in the format.** -/
theorem inFormat_ofRatio (negative : Bool) (num den : Nat) :
    (ofRatio negative num den).InFormat := by
  have hpos : 0 < coefficientBound := Nat.pow_pos (by decide)
  rw [ofRatio]
  split
  · exact hpos
  · next hzero =>
    have hden : 0 < den := Nat.pos_of_ne_zero fun h => hzero (.inr h)
    dsimp only
    generalize hq : max (normalExponent num den) leastExponent = q
    have hscaled : (scaled num den q).1 / (scaled num den q).2 < coefficientBound :=
      scaled_div_lt hden (hq ▸ le_max_left _ _)
    have hround := roundHalfEven_le (scaled num den q).1 (scaled num den q).2
    split_ifs
    · trivial
    · next hfits _ => exact hfits
    · trivial
    · simp only [InFormat]
      omega

theorem inFormat_ofDecimal (negative : Bool) (coefficient : Nat) (exponent : Int) :
    (ofDecimal negative coefficient exponent).InFormat := by
  have hzero : (zero negative).InFormat := Nat.pow_pos (by decide)
  rw [ofDecimal]
  dsimp only
  split_ifs
  · exact hzero
  · trivial
  · exact hzero
  · exact inFormat_ofRatio _ _ _
  · exact inFormat_ofRatio _ _ _

end PrefixCalc.Real64
