import PrefixCalc.Json.Token
import PrefixCalc.Proofs.ShortestDigits

/-!
# The Texts of Floating-Point Numbers

The text of a finite floating-point number is a number of JSON, however its digits are laid out:
digits without a needless zero at their start, and behind them a fraction, an exponent, or both
(`Json.IsFloating`). So it is read as a floating-point number again. Which one it is read as is not
said here, only that it is one.

## Main results

* `Json.Word.ofNumeral_floating`: what has the shape of a floating-point number is read as one.
* `Layout.isFloating_digits`: digits in the standard layout have the shape.
* `Real64.ofNumeral_text`: the text of a finite number is read as a floating-point number.
-/

namespace PrefixCalc

namespace Json

/-! ### The shape of a number -/

/-- One or more digits. -/
structure AreDigits (ds : List Char) : Prop where
  ne_nil : ds ≠ []
  isDigit : ∀ c ∈ ds, c.isDigit = true

/-- A point with digits behind it, or nothing. -/
inductive IsFraction : List Char → Prop
  | absent : IsFraction []
  | present {ds : List Char} (h : AreDigits ds) : IsFraction ('.' :: ds)

/-- The letter of an exponent with a sign and digits behind it, or nothing. -/
inductive IsExponent : List Char → Prop
  | absent : IsExponent []
  | present {sign : Char} {ds : List Char} (hsign : sign = '+' ∨ sign = '-') (h : AreDigits ds) :
      IsExponent ('e' :: sign :: ds)

/-- A number without sign that is no integer: digits without a needless zero, and a fraction, an
exponent, or both. -/
inductive IsFloating : List Char → Prop
  | mk {whole fraction exponent : List Char} (hwhole : AreDigits whole)
      (hzero : Decimal.NoLeadingZero whole) (hfraction : IsFraction fraction)
      (hexponent : IsExponent exponent) (hsome : fraction ≠ [] ∨ exponent ≠ []) :
      IsFloating (whole ++ fraction ++ exponent)

theorem areDigits_zero : AreDigits ['0'] :=
  ⟨List.cons_ne_nil _ _, List.forall_mem_singleton.mpr rfl⟩

variable {ds es fraction exponent cs : List Char}

theorem isDigit_of_mem_zeros {n : Nat} : ∀ c ∈ List.replicate n '0', c.isDigit = true := by
  intro c hc
  obtain rfl := List.eq_of_mem_replicate hc
  decide

theorem AreDigits.append_left (h : AreDigits ds) (hes : ∀ c ∈ es, c.isDigit = true) :
    AreDigits (es ++ ds) :=
  ⟨List.append_ne_nil_of_right_ne_nil _ h.ne_nil,
    List.forall_mem_append.mpr ⟨hes, h.isDigit⟩⟩

theorem AreDigits.append_right (h : AreDigits ds) (hes : ∀ c ∈ es, c.isDigit = true) :
    AreDigits (ds ++ es) :=
  ⟨List.append_ne_nil_of_left_ne_nil h.ne_nil _,
    List.forall_mem_append.mpr ⟨h.isDigit, hes⟩⟩

theorem digitRun_append (hds : ∀ c ∈ ds, c.isDigit = true)
    (hcs : ∀ c ∈ cs.head?, c.isDigit = false) : digitRun (ds ++ cs) = (ds, cs) := by
  have hstops : cs.takeWhile Char.isDigit = [] ∧ cs.dropWhile Char.isDigit = cs := by
    cases cs with
    | nil => exact ⟨rfl, rfl⟩
    | cons c cs =>
        have hc := hcs c rfl
        rw [List.takeWhile_cons, List.dropWhile_cons, hc]
        exact ⟨rfl, rfl⟩
  rw [digitRun, List.takeWhile_append_of_pos hds, List.dropWhile_append_of_pos hds, hstops.1,
    hstops.2, List.append_nil]

/-- No digit stands behind the digits of a number. -/
theorem IsExponent.head_not_digit (h : IsExponent exponent) :
    ∀ c ∈ exponent.head?, c.isDigit = false := by
  cases h with
  | absent => exact fun c hc => by cases hc
  | present => exact fun c hc => by cases hc; decide

theorem IsFraction.head_not_digit (h : IsFraction fraction) (hexponent : IsExponent exponent) :
    ∀ c ∈ (fraction ++ exponent).head?, c.isDigit = false := by
  cases h with
  | absent => exact hexponent.head_not_digit
  | present => exact fun c hc => by cases hc; decide

/-- A fraction is read up to the exponent. -/
theorem IsFraction.read (h : IsFraction fraction) (hexponent : IsExponent exponent) :
    ∃ ds, fractionPart (fraction ++ exponent) = some (ds, exponent) ∧
      (ds.isEmpty = true → fraction = []) := by
  cases h with
  | absent =>
      refine ⟨[], ?_, fun _ => rfl⟩
      cases hexponent <;> rfl
  | @present ds h =>
      refine ⟨ds, ?_, fun hempty => absurd (List.isEmpty_iff.mp hempty) h.ne_nil⟩
      have hfull : ¬ ds.isEmpty = true := by simpa using h.ne_nil
      rw [List.cons_append, fractionPart, digitRun_append h.isDigit hexponent.head_not_digit]
      simp only [if_neg hfull]

theorem IsExponent.read (h : IsExponent exponent) :
    ∃ e, exponentPart exponent = some e ∧ (e.isNone = true → exponent = []) := by
  cases h with
  | absent => exact ⟨none, rfl, fun _ => rfl⟩
  | @present sign ds hsign h =>
      have hdigits : (!ds.isEmpty && ds.all Char.isDigit) = true := by
        simpa [h.ne_nil] using h.isDigit
      rcases hsign with rfl | rfl
      · exact ⟨some (Decimal.signed false (Decimal.ofDigits ds)), by simp [exponentPart, hdigits],
          by simp⟩
      · exact ⟨some (Decimal.signed true (Decimal.ofDigits ds)),
          by simp [exponentPart, Decimal.splitSign, hdigits], by simp⟩

/-- Digits without a needless zero are the whole part of a number. -/
theorem isWhole_of_noLeadingZero (h : AreDigits ds) (hzero : Decimal.NoLeadingZero ds) :
    (ds.isEmpty || (ds.length != 1 && ds.head? == some '0')) = false := by
  by_cases hhead : ds.head? = some '0'
  · simp [hzero hhead]
  · simp [h.ne_nil, hhead]

/-- **What has the shape of a floating-point number is read as one**, with a minus sign in front of
it or without. -/
theorem Word.ofNumeral_floating (h : IsFloating cs) (negative : Bool) :
    ∃ x, Word.ofNumeral? (if negative then '-' :: cs else cs) = some (.real x) := by
  obtain ⟨hwhole, hzero, hfraction, hexponent, hsome⟩ := h
  next whole fraction exponent =>
  have hsplit : Decimal.splitSign (if negative then '-' :: (whole ++ fraction ++ exponent)
      else whole ++ fraction ++ exponent) = (negative, whole ++ (fraction ++ exponent)) := by
    rw [List.append_assoc]
    cases negative with
    | true => rfl
    | false =>
        obtain ⟨c, rest, rfl⟩ := List.exists_cons_of_ne_nil hwhole.ne_nil
        have hc : c ≠ '-' := by
          rintro rfl
          exact absurd (hwhole.isDigit '-' List.mem_cons_self) (by decide)
        simp [Decimal.splitSign, hc]
  have hplain := isWhole_of_noLeadingZero hwhole hzero
  obtain ⟨ds, hread, hds⟩ := hfraction.read hexponent
  obtain ⟨e, hread', he⟩ := hexponent.read
  have hreal : (ds.isEmpty && e.isNone) = false := by
    rw [Bool.and_eq_false_iff]
    rcases hsome with hsome | hsome
    · exact .inl (Bool.eq_false_iff.mpr fun h => hsome (hds h))
    · exact .inr (Bool.eq_false_iff.mpr fun h => hsome (he h))
  refine ⟨Real64.ofDecimal negative (Decimal.ofDigits (whole ++ ds)) (e.getD 0 - ds.length), ?_⟩
  rw [ofNumeral?, hsplit]
  simp only [digitRun_append hwhole.isDigit (hfraction.head_not_digit hexponent), hplain, hread,
    hread', hreal, Option.bind_eq_bind, Option.bind_some, Bool.false_eq_true, if_false]

/-! ### The characters of a number -/

theorem isWordChar_of_isDigit {c : Char} (h : c.isDigit = true) : isWordChar c = true := by
  simp [isWordChar, Char.isAlphanum, h]

theorem IsFraction.isWordChar_of_mem (h : IsFraction fraction) :
    ∀ c ∈ fraction, isWordChar c = true := by
  cases h with
  | absent => simp
  | present h =>
      rw [List.forall_mem_cons]
      exact ⟨by decide, fun c hc => isWordChar_of_isDigit (h.isDigit c hc)⟩

theorem IsExponent.isWordChar_of_mem (h : IsExponent exponent) :
    ∀ c ∈ exponent, isWordChar c = true := by
  cases h with
  | absent => simp
  | present hsign h =>
      rw [List.forall_mem_cons, List.forall_mem_cons]
      refine ⟨by decide, ?_, fun c hc => isWordChar_of_isDigit (h.isDigit c hc)⟩
      rcases hsign with rfl | rfl <;> decide

/-- A floating-point number is a word with a digit in it. -/
theorem IsFloating.isWordChar_of_mem (h : IsFloating cs) :
    (∀ c ∈ cs, isWordChar c = true) ∧ ∃ c ∈ cs, c.isDigit = true := by
  obtain ⟨hwhole, -, hfraction, hexponent, -⟩ := h
  constructor
  · intro c hc
    rw [List.mem_append, List.mem_append] at hc
    rcases hc with (hc | hc) | hc
    · exact isWordChar_of_isDigit (hwhole.isDigit c hc)
    · exact hfraction.isWordChar_of_mem c hc
    · exact hexponent.isWordChar_of_mem c hc
  · obtain ⟨c, hc⟩ := List.exists_mem_of_ne_nil _ hwhole.ne_nil
    exact ⟨c, List.mem_append_left _ (List.mem_append_left _ hc), hwhole.isDigit c hc⟩

end Json

/-! ### The standard layout -/

namespace Layout

open Json

/-- An exponent in a layout has a sign and digits. -/
theorem exists_exponent (l : Layout) (e : Int) : ∃ sign ds,
    (l.exponent e).toList = 'e' :: sign :: ds ∧ (sign = '+' ∨ sign = '-') ∧ AreDigits ds := by
  have hdigits : AreDigits (Nat.toDigits 10 e.natAbs) :=
    ⟨Nat.toDigits_ne_nil, fun _ => Decimal.isDigit_of_mem_toDigits⟩
  refine ⟨if e < 0 then '-' else '+',
    List.replicate (l.exponentWidth - (Nat.toDigits 10 e.natAbs).length) '0' ++ _, ?_, ?_,
    hdigits.append_left isDigit_of_mem_zeros⟩
  · simp only [exponent, String.toList_append, String.toList_ofList]
    split <;> rfl
  · split
    · exact .inr rfl
    · exact .inl rfl

variable {c : Char} {cs : List Char}

/-- Digits behind a point, and zeros between. -/
theorem isFloating_small (hdigits : AreDigits cs) (n : Nat) :
    IsFloating ("0." ++ String.ofList (List.replicate n '0' ++ cs)).toList := by
  have hfraction : AreDigits (List.replicate n '0' ++ cs) :=
    hdigits.append_left isDigit_of_mem_zeros
  have h := IsFloating.mk areDigits_zero (fun _ => rfl) (.present hfraction) .absent
    (.inl (List.cons_ne_nil _ _))
  rw [List.append_nil] at h
  have hpoint : "0.".toList = ['0', '.'] := rfl
  simpa only [String.toList_append, String.toList_ofList, hpoint, List.cons_append,
    List.nil_append] using h

/-- Digits on both sides of a point, a zero where there are too few. -/
theorem isFloating_whole (hc : c ≠ '0') (hdigits : AreDigits (c :: cs)) (n : Nat) :
    IsFloating (String.ofList (c :: cs.take n ++ List.replicate (n - (cs.take n).length) '0') ++
      (if (cs.drop n).isEmpty then standard.wholeMark
        else "." ++ String.ofList (cs.drop n))).toList := by
  obtain ⟨hfirst, hrest⟩ := List.forall_mem_cons.mp hdigits.isDigit
  have htaken : AreDigits (c :: cs.take n) := ⟨List.cons_ne_nil _ _,
    List.forall_mem_cons.mpr ⟨hfirst, fun d hd => hrest d (List.mem_of_mem_take hd)⟩⟩
  have hwhole : AreDigits (c :: cs.take n ++ List.replicate (n - (cs.take n).length) '0') :=
    htaken.append_right isDigit_of_mem_zeros
  have hfraction : ∃ ds, AreDigits ds ∧ (if (cs.drop n).isEmpty then standard.wholeMark
      else "." ++ String.ofList (cs.drop n)).toList = '.' :: ds := by
    split
    · exact ⟨['0'], areDigits_zero, rfl⟩
    · next hmore =>
      have hne : cs.drop n ≠ [] := fun h => hmore (List.isEmpty_iff.mpr h)
      refine ⟨cs.drop n, ⟨hne, fun d hd => hrest d (List.mem_of_mem_drop hd)⟩, ?_⟩
      simp only [String.toList_append, String.toList_ofList]
      rfl
  obtain ⟨ds, hds, htext⟩ := hfraction
  have hzero : Decimal.NoLeadingZero (c :: cs.take n ++
      List.replicate (n - (cs.take n).length) '0') := fun h => absurd (Option.some.inj h) hc
  have h := IsFloating.mk hwhole hzero (.present hds) .absent (.inl (List.cons_ne_nil _ _))
  rw [List.append_nil, ← htext] at h
  simpa only [String.toList_append, String.toList_ofList] using h

/-- One digit, a point with the others behind it if there are others, and an exponent. -/
theorem isFloating_scientific (hc : c ≠ '0') (hdigits : AreDigits (c :: cs)) (l : Layout)
    (e : Int) : IsFloating (String.ofList [c] ++ (if cs.length + 1 ≤ 1 then "" else ".") ++
      String.ofList cs ++ l.exponent e).toList := by
  obtain ⟨hfirst, hrest⟩ := List.forall_mem_cons.mp hdigits.isDigit
  obtain ⟨sign, ds, htext, hsign, hds⟩ := l.exists_exponent e
  have hwhole : AreDigits [c] := ⟨List.cons_ne_nil _ _, by simpa using hfirst⟩
  have hzero : Decimal.NoLeadingZero [c] := fun h => absurd (Option.some.inj h) hc
  have hfraction : IsFraction
      ((if cs.length + 1 ≤ 1 then "" else "." : String).toList ++ cs) := by
    cases cs with
    | nil => exact .absent
    | cons d ds =>
        rw [if_neg (by simp)]
        exact .present ⟨List.cons_ne_nil _ _, hrest⟩
  have h := IsFloating.mk hwhole hzero hfraction (.present hsign hds) (.inr (List.cons_ne_nil _ _))
  simpa [htext] using h

/-- **Digits that start with no zero are laid out as a floating-point number.** -/
theorem isFloating_digits (hc : c ≠ '0') (hdigits : AreDigits (c :: cs)) (places : Int) :
    IsFloating (standard.digits (c :: cs) places).toList := by
  rw [digits]
  split
  · split
    · exact isFloating_small hdigits _
    · next hplaces =>
      obtain ⟨n, hn⟩ : ∃ n, places.toNat = n + 1 := ⟨places.toNat - 1, by omega⟩
      have hwhole := isFloating_whole hc hdigits n
      simpa only [hn, List.take_succ_cons, List.drop_succ_cons, List.length_cons,
        Nat.add_sub_add_right] using hwhole
  · exact isFloating_scientific hc hdigits _ _

end Layout

theorem Real64.exists_text {m : Nat} (h : m < coefficientBound) (negative : Bool) (q : Int) :
    ∃ cs, Json.IsFloating cs ∧
      (finite negative m q).text.toList = if negative then '-' :: cs else cs := by
  have hsign : ∀ s : String, ((if negative then "-" else "") ++ s).toList =
      if negative then '-' :: s.toList else s.toList := by
    intro s
    rw [String.toList_append]
    split <;> rfl
  rw [text, Layout.number]
  split
  · refine ⟨['0', '.', '0'], .mk Json.areDigits_zero (fun _ => rfl)
      (.present Json.areDigits_zero) .absent (.inl (List.cons_ne_nil _ _)), ?_⟩
    split <;> rfl
  · next hm =>
    obtain ⟨c, cs, hds, hc, hdigits⟩ := shortest_digits (Nat.pos_of_ne_zero hm) h q
    refine ⟨_, Layout.isFloating_digits hc ⟨List.cons_ne_nil _ _, hdigits⟩ (shortest m q).2, ?_⟩
    rw [← hds, ← hsign]

/-- **The text of a finite number is read as a floating-point number.** It is a word with a digit
in it. -/
theorem Real64.ofNumeral_text {m : Nat} (h : m < coefficientBound) (negative : Bool) (q : Int) :
    (∃ x, Json.Word.ofNumeral? (finite negative m q).text.toList = some (.real x)) ∧
      (∀ c ∈ (finite negative m q).text.toList, Json.isWordChar c = true) ∧
      ∃ c ∈ (finite negative m q).text.toList, c.isDigit = true := by
  obtain ⟨cs, hcs, htext⟩ := exists_text h negative q
  obtain ⟨hchars, hdigit⟩ := hcs.isWordChar_of_mem
  rw [htext]
  refine ⟨Json.Word.ofNumeral_floating hcs negative, ?_, ?_⟩
  · split
    · exact List.forall_mem_cons.mpr ⟨by decide, hchars⟩
    · exact hchars
  · split
    · exact hdigit.imp fun c hc => ⟨List.mem_cons_of_mem _ hc.1, hc.2⟩
    · exact hdigit

end PrefixCalc
