import Mathlib.Data.List.Basic
import Mathlib.Data.List.Induction
import PrefixCalc.Proofs.Literals

/-!
# Numerals

What a numeral denotes, and how an integer is written. `Decimal.Denotes` says it without a look
at the reader: one ASCII digit denotes a number below ten, a digit behind digits adds itself to
ten times what they denote, and a minus sign in front takes the number off zero. The reader's
`Decimal.ofNumeral` agrees with it (`Decimal.denotes_iff`).

The decimal text of an integer is a numeral that denotes the integer, and the only canonical one:
all others start with a zero that is not needed or have a sign that is not. Uniqueness is an
induction over the digits from the back, where `Decimal.DigitsDenote` appends. The last digits
agree because they are the remainders by ten, and the digits before them denote the same quotient.
A single digit never denotes what more digits do, since digits that do not start with a zero do not
denote zero.

## Main results

* `Decimal.denotes_iff`: the reader makes of a numeral what it denotes.
* `Decimal.splitSign_text`: the sign and the digits of an integer are told apart again.
* `Decimal.denotes_text`: the text of an integer denotes it.
* `Decimal.isCanonical_iff`: the text of an integer is its one canonical numeral.
-/

namespace PrefixCalc.Decimal

/-! ### What numerals denote -/

/-- The number that one or more ASCII digits stand for in base ten. -/
inductive DigitsDenote : List Char → Nat → Prop
  | single {d : Nat} (h : d < 10) : DigitsDenote [Nat.digitChar d] d
  | append {ds : List Char} {n d : Nat} (hds : DigitsDenote ds n) (h : d < 10) :
      DigitsDenote (ds ++ [Nat.digitChar d]) (10 * n + d)

/-- The integer that a numeral stands for: digits, with a minus sign in front or without. -/
inductive Denotes : List Char → Int → Prop
  | plain {ds : List Char} {n : Nat} (h : DigitsDenote ds n) : Denotes ds n
  | minus {ds : List Char} {n : Nat} (h : DigitsDenote ds n) : Denotes ('-' :: ds) (-n)

theorem exists_digitChar_of_isDigit {c : Char} (h : c.isDigit = true) :
    ∃ d < 10, Nat.digitChar d = c := by
  have hlt := toNat_sub_lt_ten h
  refine ⟨c.toNat - '0'.toNat, hlt, ?_⟩
  rw [← Char.toNat_inj, Nat.toNat_digitChar_of_lt_ten hlt]
  exact Nat.add_sub_of_le (Char.isDigit_iff_toNat.mp h).1

theorem isDigit_digitChar {d : Nat} (h : d < 10) : (Nat.digitChar d).isDigit = true := by
  rw [Nat.isDigit_digitChar, decide_eq_true h]

theorem ofDigits_append_digitChar (ds : List Char) {d : Nat} (h : d < 10) :
    ofDigits (ds ++ [Nat.digitChar d]) = 10 * ofDigits ds + d := by
  rw [ofDigits, Nat.ofDigitChars_append, Nat.ofDigitChars_cons_digitChar_of_lt_ten h,
    Nat.ofDigitChars_nil, ofDigits]

/-- Digits are converted to the number that they denote. -/
theorem digitsDenote_iff {ds : List Char} {n : Nat} :
    DigitsDenote ds n ↔ (ds ≠ [] ∧ ∀ c ∈ ds, c.isDigit = true) ∧ ofDigits ds = n := by
  constructor
  · intro h
    induction h with
    | single h =>
        refine ⟨⟨by simp, by simp [isDigit_digitChar h]⟩, ?_⟩
        rw [← List.nil_append [_], ofDigits_append_digitChar [] h, ofDigits_nil, Nat.mul_zero,
          Nat.zero_add]
    | append _ h ih =>
        obtain ⟨⟨-, hdigits⟩, rfl⟩ := ih
        refine ⟨⟨by simp, ?_⟩, ofDigits_append_digitChar _ h⟩
        simpa [isDigit_digitChar h, or_imp, forall_and] using hdigits
  · rintro ⟨⟨hne, hdigits⟩, rfl⟩
    induction ds using List.reverseRecOn with
    | nil => exact absurd rfl hne
    | append_singleton ds c ih =>
        obtain ⟨d, hd, rfl⟩ := exists_digitChar_of_isDigit (hdigits c (by simp))
        rw [ofDigits_append_digitChar ds hd]
        by_cases hds : ds = []
        · subst hds
          rw [ofDigits_nil, Nat.mul_zero, Nat.zero_add]
          exact .single hd
        · exact .append (ih hds fun c hc => hdigits c (List.mem_append_left _ hc)) hd

/-- Digits alone have no sign. -/
theorem splitSign_of_forall_isDigit {ds : List Char} (h : ∀ c ∈ ds, c.isDigit = true) :
    splitSign ds = (false, ds) := by
  rw [splitSign]
  rintro cs rfl
  exact absurd (h '-' (List.mem_cons_self ..)) (by decide)

/-- **The reader makes of a numeral what it denotes.** -/
theorem denotes_iff {cs : List Char} {n : Int} :
    Denotes cs n ↔ isNumeral cs = true ∧ ofNumeral cs = n := by
  rw [isNumeral_iff]
  constructor
  · rintro (h | h)
    · obtain ⟨hdigits, rfl⟩ := digitsDenote_iff.mp h
      simp only [ofNumeral, splitSign_of_forall_isDigit hdigits.2]
      exact ⟨hdigits, rfl⟩
    · obtain ⟨hdigits, rfl⟩ := digitsDenote_iff.mp h
      exact ⟨hdigits, rfl⟩
  · rintro ⟨hdigits, rfl⟩
    unfold ofNumeral
    unfold splitSign at hdigits ⊢
    split at hdigits
    · exact .minus (digitsDenote_iff.mpr ⟨hdigits, rfl⟩)
    · exact .plain (digitsDenote_iff.mpr ⟨hdigits, rfl⟩)

/-- A numeral denotes one integer. -/
theorem Denotes.unique {cs : List Char} {m n : Int} (hm : Denotes cs m) (hn : Denotes cs n) :
    m = n :=
  (denotes_iff.mp hm).2.symm.trans (denotes_iff.mp hn).2

/-! ### The digits of an integer -/

/-- An integer is written with a minus sign, if it is negative, and digits. -/
theorem toList_text (n : Int) :
    (text n).toList = (if n < 0 then ['-'] else []) ++ Nat.toDigits 10 n.natAbs := by
  cases n with
  | ofNat m =>
      have hnonneg : ¬ Int.ofNat m < 0 := by simp
      rw [text, if_neg hnonneg, List.nil_append, Nat.toList_repr]
      rfl
  | negSucc m =>
      rw [text, if_pos (Int.negSucc_lt_zero m), String.toList_append, Nat.toList_repr]
      rfl

theorem isDigit_of_mem_toDigits {n : Nat} {c : Char} (h : c ∈ Nat.toDigits 10 n) :
    c.isDigit = true :=
  Nat.isDigit_of_mem_toDigits (by decide) (by decide) h

/-- No digit of more than one is a needless zero. -/
theorem head_toDigits_ne_zero {n : Nat} {d : Char} {ds : List Char}
    (h : Nat.toDigits 10 n = d :: ds) (hds : ds ≠ []) : d ≠ '0' := by
  rintro rfl
  have hdigits : ∀ c ∈ ds, c.isDigit = true := by
    intro c hc
    exact isDigit_of_mem_toDigits (h ▸ List.mem_cons_of_mem _ hc)
  have hvalue : n = ofDigits ds := by
    rw [← Nat.ofDigitChars_toDigits (b := 10) (n := n) (by decide) (by decide), h]
    have hcons := ofDigits_cons '0' ds
    rw [Nat.sub_self, Nat.mul_zero, Nat.zero_add] at hcons
    exact hcons
  have hlength : (Nat.toDigits 10 n).length ≤ ds.length :=
    (Nat.length_toDigits_le_iff (by decide) (List.length_pos_iff.mpr hds)).mpr
      (hvalue ▸ ofDigits_lt hdigits)
  rw [h, List.length_cons] at hlength
  omega

/-- The sign and the digits of an integer are told apart again. -/
theorem splitSign_text (n : Int) :
    splitSign (text n).toList = (decide (n < 0), Nat.toDigits 10 n.natAbs) := by
  rw [toList_text]
  by_cases h : n < 0
  · simp [h, splitSign]
  · rw [if_neg h, List.nil_append, decide_eq_false h,
      splitSign_of_forall_isDigit fun c => isDigit_of_mem_toDigits]

theorem signed_natAbs (n : Int) : signed (decide (n < 0)) n.natAbs = n := by
  by_cases h : n < 0
  · simp only [signed, decide_eq_true h, if_true]
    omega
  · simp only [signed, decide_eq_false h, Bool.false_eq_true, if_false]
    omega

/-- An integer is made of minus signs and digits. -/
theorem mem_text {n : Int} {c : Char} (h : c ∈ (text n).toList) : c = '-' ∨ c.isDigit = true := by
  rw [toList_text, List.mem_append] at h
  rcases h with h | h
  · left
    split at h
    · simpa using h
    · exact absurd h (by simp)
  · exact .inr (isDigit_of_mem_toDigits h)

theorem text_ne_nil (n : Int) : (text n).toList ≠ [] := by
  rw [toList_text]
  intro h
  exact Nat.toDigits_ne_nil (List.append_eq_nil_iff.mp h).2

/-- **The text of an integer denotes it.** -/
theorem denotes_text (n : Int) : Denotes (text n).toList n := by
  rw [denotes_iff, isNumeral_iff, ofNumeral, splitSign_text]
  refine ⟨⟨Nat.toDigits_ne_nil, fun c => isDigit_of_mem_toDigits⟩, ?_⟩
  have hvalue : ofDigits (Nat.toDigits 10 n.natAbs) = n.natAbs := Nat.ofDigitChars_ten_toDigits
  simp only [hvalue, signed_natAbs]

/-! ### Canonical numerals -/

/-- Digits that start with a zero only when it is the only digit. -/
def NoLeadingZero (ds : List Char) : Prop :=
  ds.head? = some '0' → ds = ['0']

/-- The canonical numeral of an integer: it denotes the integer, without a needless zero, without
a plus sign, and with a minus sign only when the integer is negative. -/
structure IsCanonical (cs : List Char) (n : Int) : Prop where
  denotes : Denotes cs n
  noLeadingZero : NoLeadingZero (splitSign cs).2
  noPlus : '+' ∉ cs
  minus : '-' ∈ cs ↔ n < 0

namespace DigitsDenote

variable {ds es : List Char} {n : Nat}

theorem ne_nil (h : DigitsDenote ds n) : ds ≠ [] :=
  (digitsDenote_iff.mp h).1.1

theorem isDigit_of_mem (h : DigitsDenote ds n) : ∀ c ∈ ds, c.isDigit = true :=
  (digitsDenote_iff.mp h).1.2

/-- Digits that do not start with a zero denote no zero. -/
theorem pos (h : DigitsDenote ds n) (hhead : ds.head? ≠ some '0') : 0 < n := by
  induction h with
  | @single d hd =>
      refine Nat.pos_of_ne_zero ?_
      rintro rfl
      exact hhead rfl
  | append hds _ ih =>
      rw [List.head?_append_of_ne_nil _ hds.ne_nil] at hhead
      have := ih hhead
      omega

/-- Before the last of several digits no needless zero has become one that is needed. -/
theorem head_ne_zero_of_append (h : DigitsDenote ds n) {c : Char}
    (hzero : NoLeadingZero (ds ++ [c])) : ds.head? ≠ some '0' := by
  intro hhead
  have hone := hzero (by rw [List.head?_append_of_ne_nil _ h.ne_nil, hhead])
  have hlength := congrArg List.length hone
  rw [List.length_append, List.length_singleton, List.length_singleton, Nat.add_eq_right,
    List.length_eq_zero_iff] at hlength
  exact h.ne_nil hlength

/-- **One sequence of digits without a leading zero denotes a number.** -/
theorem eq_of_noLeadingZero (hds : DigitsDenote ds n) (hes : DigitsDenote es n)
    (hzero : NoLeadingZero ds) (hzero' : NoLeadingZero es) : ds = es := by
  induction hds generalizing es with
  | @single d hd =>
      cases hes with
      | single => rfl
      | append hes he =>
          have := hes.pos (hes.head_ne_zero_of_append hzero')
          omega
  | @append ds m d hds hd ih =>
      have hhead := hds.head_ne_zero_of_append hzero
      generalize hn : 10 * m + d = n at hes
      cases hes with
      | single he =>
          have := hds.pos hhead
          omega
      | @append es k e hes he =>
          have hhead' := hes.head_ne_zero_of_append hzero'
          obtain ⟨rfl, rfl⟩ : m = k ∧ d = e := by omega
          rw [ih hes (fun h => absurd h hhead) fun h => absurd h hhead']

end DigitsDenote

/-- The digits of an integer. -/
theorem digitsDenote_toDigits (n : Nat) : DigitsDenote (Nat.toDigits 10 n) n :=
  digitsDenote_iff.mpr ⟨⟨Nat.toDigits_ne_nil, fun _ => isDigit_of_mem_toDigits⟩,
    Nat.ofDigitChars_ten_toDigits⟩

theorem noLeadingZero_toDigits (n : Nat) : NoLeadingZero (Nat.toDigits 10 n) := by
  intro hhead
  cases hdigits : Nat.toDigits 10 n with
  | nil => exact absurd hdigits Nat.toDigits_ne_nil
  | cons d ds =>
      rw [hdigits, List.head?_cons, Option.some.injEq] at hhead
      by_cases hds : ds = []
      · rw [hhead, hds]
      · exact absurd hhead (head_toDigits_ne_zero hdigits hds)

theorem isCanonical_text (n : Int) : IsCanonical (text n).toList n where
  denotes := denotes_text n
  noLeadingZero := by
    rw [splitSign_text]
    exact noLeadingZero_toDigits n.natAbs
  noPlus := by
    intro h
    rcases mem_text h with h | h
    · exact absurd h (by decide)
    · exact absurd h (by decide)
  minus := by
    rw [toList_text, List.mem_append]
    have hdigit : '-' ∉ Nat.toDigits 10 n.natAbs := fun h =>
      absurd (isDigit_of_mem_toDigits h) (by decide)
    simp [hdigit]

/-- **There is one canonical numeral for an integer**, the text of the integer. -/
theorem isCanonical_iff {cs : List Char} {n : Int} : IsCanonical cs n ↔ cs = (text n).toList := by
  refine ⟨fun h => ?_, fun h => h ▸ isCanonical_text n⟩
  rw [toList_text]
  obtain ⟨hdenotes, hzero, -, hminus⟩ := h
  cases hdenotes with
  | @plain ds m hds =>
      rw [splitSign_of_forall_isDigit hds.isDigit_of_mem] at hzero
      have heq := hds.eq_of_noLeadingZero (digitsDenote_toDigits m) hzero (noLeadingZero_toDigits m)
      have hnonneg : ¬ (m : Int) < 0 := by omega
      rw [if_neg hnonneg, List.nil_append, Int.natAbs_natCast, heq]
  | @minus ds m hds =>
      have heq := hds.eq_of_noLeadingZero (digitsDenote_toDigits m) hzero (noLeadingZero_toDigits m)
      have hneg : (-m : Int) < 0 := hminus.mp List.mem_cons_self
      rw [if_pos hneg, Int.natAbs_neg, Int.natAbs_natCast, heq]
      rfl

theorem text_injective {m n : Int} (h : text m = text n) : m = n :=
  (denotes_text m).unique (h ▸ denotes_text n)

end PrefixCalc.Decimal
