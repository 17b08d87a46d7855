import Mathlib.Data.List.TakeWhile
import PrefixCalc.Proofs.JsonTokens
import PrefixCalc.Settings.Load

/-!
# Settings of the Environment

What holds of settings that no caller gave a value for. All that the environment and a file give
for a setting that is not structured is a text (`Settings.isText_of_collect`), and an integer that
is read from a text has no more digits than an integer may be written with. So the limit on
expressions can be written, however it was set.

## Main results

* `Field.Checked.apply_eq_ok_iff`: a record is made when each of its fields is.
* `Settings.limit_of_check`: the limit is checked by itself.
* `Settings.digitCount_of_load`: the limit can be written.
-/

namespace PrefixCalc

/-! ### Integers from texts -/

namespace Numeral

/-- A bare numeral that is not too long stands for an integer that can be written. -/
theorem digitCount_of_ofBare {cs : List Char} {n : Int} (h : ofBare? cs = some n) :
    Decimal.digitCount n ≤ Decimal.maxDigits := by
  rw [ofBare?] at h
  split at h
  · next hbare =>
    cases h
    rw [Bool.and_eq_true, decide_eq_true_iff, leadingDigits, isBare, Bool.and_eq_true,
      Bool.or_eq_true, beq_iff_eq, bne_iff_ne] at hbare
    obtain ⟨⟨hnumeral, hzero⟩, hleading⟩ := hbare
    obtain ⟨-, hdigits⟩ := Decimal.isNumeral_iff.mp hnumeral
    have hlength : (Decimal.splitSign cs).2.length ≤ Decimal.maxDigits := by
      rcases hzero with hone | hhead
      · rw [hone]
        decide
      · rwa [if_neg hhead, List.takeWhile_eq_self_iff.mpr hdigits] at hleading
    rw [Decimal.digitCount_le_iff (by decide), Decimal.ofNumeral, Decimal.natAbs_signed]
    exact Nat.lt_of_lt_of_le (Decimal.ofDigits_lt hdigits)
      (Nat.pow_le_pow_right (by decide) hlength)
  · cases h

theorem digitCount_of_readInteger {s : String} {n : Int} (h : readInteger s = .int n) :
    Decimal.digitCount n ≤ Decimal.maxDigits := by
  rw [readInteger] at h
  split at h
  · cases h
  · cases hread : (ofBare? s.toList).or ((bare? s).bind ofBare?) with
    | none =>
        rw [hread] at h
        cases h
    | some m =>
        rw [hread] at h
        cases h
        rcases Option.or_eq_some_iff.mp hread with hbare | ⟨-, hbare⟩
        · exact digitCount_of_ofBare hbare
        · obtain ⟨cs, -, hcs⟩ := Option.bind_eq_some_iff.mp hbare
          exact digitCount_of_ofBare hcs

end Numeral

/-! ### Fields -/

theorem Field.digitCount_of_integer {s : String} {n : Int}
    (h : Field.integer (.text s) = .ok n) : Decimal.digitCount n ≤ Decimal.maxDigits := by
  rw [integer] at h
  cases hread : Numeral.readInteger s with
  | int m =>
      rw [hread] at h
      cases h
      exact Numeral.digitCount_of_readInteger hread
  | tooLong =>
      rw [hread] at h
      cases h
  | malformed =>
      rw [hread] at h
      cases h

/-- A function and its argument come to a value when both do. -/
theorem Field.Checked.apply_eq_ok_iff {α β : Type} {f : Checked (α → β)} {a : Checked α} {b : β} :
    f.apply a = .ok b ↔ ∃ g x, f = .ok g ∧ a = .ok x ∧ g x = b := by
  cases f with
  | ok g => cases a <;> simp [apply]
  | error es => cases a <;> simp [apply]

namespace Settings

/-! ### Values of the sources -/

/-- A value for a setting that is not structured is a text. -/
def IsText (v : Setting × Json) : Prop :=
  v.1.isStructured = false → ∃ t, v.2 = .text t

theorem isText_of_decode {s : Setting} {source : TextSource} {t : Option String} {j : Json}
    (h : decode s source t = .ok (some j)) : IsText (s, j) := by
  intro hplain
  cases t with
  | none => cases h
  | some t =>
      simp only [decode, hplain, Bool.false_eq_true, if_false] at h
      cases h
      exact ⟨t, rfl⟩

/-- What a source gives for settings that are not structured is texts. -/
theorem isText_of_decodeAll {source : TextSource} {text? : Setting → Option String}
    {values : List (Setting × Json)} (h : decodeAll source text? = .ok values) :
    ∀ v ∈ values, IsText v := by
  rw [decodeAll] at h
  have hdone : ∀ v ∈ ([] : List (Setting × Json)), IsText v := by simp
  generalize ([] : List (Setting × Json)) = done at h hdone
  generalize Setting.all = settings at h
  induction settings generalizing done with
  | nil =>
      cases h
      exact hdone
  | cons s settings ih =>
      rw [List.foldlM_cons] at h
      obtain ⟨later, hstep, hrest⟩ := bind_eq_ok_iff.mp h
      obtain ⟨value, hdecode, hvalue⟩ := bind_eq_ok_iff.mp hstep
      cases value with
      | none =>
          cases hvalue
          exact ih done hdone hrest
      | some j =>
          cases hvalue
          refine ih ((s, j) :: done) ?_ hrest
          rw [List.forall_mem_cons]
          exact ⟨isText_of_decode hdecode, hdone⟩

theorem isText_of_collect {environment : Environment} {file : Option String}
    {values : Setting → Option Json} (h : collect { environment, file } = .ok values)
    {s : Setting} {j : Json} (hj : values s = some j) : IsText (s, j) := by
  rw [collect] at h
  obtain ⟨ofEnvironment, henvironment, h⟩ := bind_eq_ok_iff.mp h
  obtain ⟨ofFile, hfile, h⟩ := bind_eq_ok_iff.mp h
  cases h
  have hgiven : ∀ {values : List (Setting × Json)}, (∀ v ∈ values, IsText v) →
      values.lookup s = some j → IsText (s, j) := by
    intro values hvalues hlookup
    obtain ⟨before, behind, rfl, -⟩ := List.lookup_eq_some_iff.mp hlookup
    exact hvalues _ (by simp)
  have hnone : given? [] s = none := by cases s <;> rfl
  simp only [hnone, Option.none_or] at hj
  rcases Option.or_eq_some_iff.mp hj with hj | ⟨-, hj⟩
  · exact hgiven (isText_of_decodeAll henvironment) hj
  · exact hgiven (isText_of_decodeAll hfile) hj

/-! ### Loading -/

/-- The limit of checked settings is checked by itself. -/
theorem limit_of_check {values : Setting → Option Json} {s : Settings} (h : check values = .ok s) :
    checked values .maxExpressionLength Field.integer ({} : Settings).maxExpressionLength =
      .ok s.maxExpressionLength := by
  rw [check] at h
  obtain ⟨_, _, h₇, -, rfl⟩ := Field.Checked.apply_eq_ok_iff.mp h
  obtain ⟨_, _, h₆, -, rfl⟩ := Field.Checked.apply_eq_ok_iff.mp h₇
  obtain ⟨_, _, h₅, -, rfl⟩ := Field.Checked.apply_eq_ok_iff.mp h₆
  obtain ⟨_, _, h₄, -, rfl⟩ := Field.Checked.apply_eq_ok_iff.mp h₅
  obtain ⟨_, _, h₃, -, rfl⟩ := Field.Checked.apply_eq_ok_iff.mp h₄
  obtain ⟨_, limit, h₂, hlimit, rfl⟩ := Field.Checked.apply_eq_ok_iff.mp h₃
  obtain ⟨_, _, h₁, -, rfl⟩ := Field.Checked.apply_eq_ok_iff.mp h₂
  cases htitle : checked values .apiTitle Field.text ({} : Settings).apiTitle with
  | error es =>
      rw [htitle] at h₁
      cases h₁
  | ok title =>
      rw [htitle] at h₁
      cases h₁
      exact hlimit

/-- **A limit that is loaded can be written.** -/
theorem digitCount_of_load {environment : Environment} {file : Option String} {s : Settings}
    (h : load { environment, file } = .ok s) :
    Decimal.digitCount s.maxExpressionLength ≤ Decimal.maxDigits := by
  rw [load] at h
  obtain ⟨values, hvalues, h⟩ := bind_eq_ok_iff.mp h
  have hcheck : check values = .ok s := by
    cases hchecked : check values with
    | error es =>
        rw [hchecked] at h
        cases h
    | ok checked =>
        rw [hchecked] at h
        cases h
        rfl
  have hlimit := limit_of_check hcheck
  rw [checked] at hlimit
  cases hvalue : values .maxExpressionLength with
  | none =>
      rw [hvalue, Except.ok.injEq] at hlimit
      rw [← hlimit]
      decide
  | some j =>
      obtain ⟨t, rfl⟩ := isText_of_collect hvalues hvalue rfl
      rw [hvalue] at hlimit
      cases hinteger : Field.integer (.text t) with
      | error es => simp [hinteger, Field.Checked.within, Except.mapError] at hlimit
      | ok n =>
          simp only [hinteger, Field.Checked.within, Except.mapError, Except.ok.injEq] at hlimit
          exact hlimit ▸ Field.digitCount_of_integer hinteger

end Settings

end PrefixCalc
