import PrefixCalc.Proofs.Numerals
import PrefixCalc.Tree.Evaluate

/-!
# Values of Leaves

A leaf stands for the integer that its text denotes, when the text is a numeral and the integer
is one of 64 bits. A numeral may be of any length, but the evaluator does not convert a long one
to find out that it is out of range. `Value.ofLiteralBy` is its reading with the conversion left
open; with a conversion that enters what it is given in a ledger, the ledger holds no entry of
more than `Value.literalDigits` digits.

## Main results

* `Value.ofLiteral_eq_number_iff`: which texts are read as which number.
* `Value.ofLiteralBy_noted`: what is converted in reading a text.
* `Tree.leaf_stands_for_what_it_denotes`: the values of leaves.
-/

namespace PrefixCalc

namespace Value

/-! ### Numbers and other texts -/

/-- The integers that a literal may stand for. -/
def InRange (n : Int) : Prop :=
  -2 ^ 63 ≤ n ∧ n ≤ 2 ^ 63 - 1

/-- **A text is read as the number that it denotes**, when that is in range. -/
theorem ofLiteral_eq_number_iff {s : String} {n : Int} :
    ofLiteral s = .number n ↔ Decimal.Denotes s.toList n ∧ InRange n := by
  have hread : ofLiteral s = .number n ↔ literal? s = some n := by
    rw [ofLiteral_eq_literal?]
    cases literal? s <;> simp
  rw [hread, literal?_eq_some_iff, ← and_assoc, ← Decimal.denotes_iff]
  rfl

/-- A text that is read as no number is invalid. -/
theorem ofLiteral_eq_invalidNumber {s : String} (h : ∀ n, ofLiteral s ≠ .number n) :
    ofLiteral s = .error .invalidNumber := by
  rw [ofLiteral_eq_literal?] at h ⊢
  cases hread : literal? s with
  | none => rfl
  | some n => exact absurd (by rw [hread]; rfl) (h n)

/-! ### What is converted -/

/-- The reading of a literal, with the conversion of its digits left open. -/
def ofLiteralBy {m : Type → Type} [Monad m] (convert : List Char → m Nat) (s : String) :
    m Value :=
  let cs := s.toList
  if Decimal.isNumeral cs then
    let (negative, ds) := Decimal.splitSign cs
    let significant := ds.dropWhile (· == '0')
    if significant.length ≤ literalDigits then do
      let n := Decimal.signed negative (← convert significant)
      return if literalMin ≤ n ∧ n ≤ literalMax then .number n else .error .invalidNumber
    else return .error .invalidNumber
  else return .error .invalidNumber

/-- The conversion of digits that enters what it is given in a ledger. -/
def noted (ds : List Char) : StateM (List (List Char)) Nat := do
  modify (ds :: ·)
  return Decimal.ofDigits ds

/-- **Only digits are converted, and no more than 19** at a time, in reading a text of any
length. -/
theorem ofLiteralBy_noted (s : String) :
    ∃ ledger, (ofLiteralBy noted s).run [] = (ofLiteral s, ledger) ∧
      ∀ ds ∈ ledger, ds.length ≤ literalDigits ∧ ∀ c ∈ ds, c.isDigit = true := by
  unfold ofLiteralBy ofLiteral
  dsimp only
  split
  · next hnumeral =>
      split
      · next hshort =>
          refine ⟨[_], rfl, ?_⟩
          rw [List.forall_mem_singleton]
          refine ⟨hshort, fun c hc => ?_⟩
          exact (Decimal.isNumeral_iff.mp hnumeral).2 c ((List.dropWhile_sublist _).mem hc)
      · exact ⟨[], rfl, by simp⟩
  · exact ⟨[], rfl, by simp⟩

end Value

/-- **A leaf stands for what it denotes.** Its value is a number exactly when its text denotes
that number and the number is in range, and every other text is an invalid number; no more than
19 digits are converted to find it. So the decimal text of an integer stands for the integer, when
it is in range, and for nothing else. -/
theorem Tree.leaf_stands_for_what_it_denotes :
    (∀ s : String,
      (∀ n, (leaf s).evaluate = .ok (.number n) ↔
        Decimal.Denotes s.toList n ∧ Value.InRange n) ∧
      ((¬ ∃ n, Decimal.Denotes s.toList n ∧ Value.InRange n) →
        (leaf s).evaluate = .ok (.error .invalidNumber)) ∧
      ∃ ledger, (Value.ofLiteralBy Value.noted s).run [] = (Value.ofLiteral s, ledger) ∧
        ∀ ds ∈ ledger, ds.length ≤ 19 ∧ ∀ c ∈ ds, c.isDigit = true) ∧
    ∀ n : Int,
      (Value.InRange n → (leaf (Decimal.text n)).evaluate = .ok (.number n)) ∧
      (¬ Value.InRange n → (leaf (Decimal.text n)).evaluate = .ok (.error .invalidNumber)) := by
  have hnumber : ∀ s n, (leaf s).evaluate = .ok (.number n) ↔
      Decimal.Denotes s.toList n ∧ Value.InRange n := by
    intro s n
    rw [evaluate_leaf, Except.ok.injEq, Value.ofLiteral_eq_number_iff]
  have hinvalid : ∀ s, (¬ ∃ n, Decimal.Denotes s.toList n ∧ Value.InRange n) →
      (leaf s).evaluate = .ok (.error .invalidNumber) := by
    intro s hnone
    rw [evaluate_leaf, Value.ofLiteral_eq_invalidNumber]
    exact fun n hread => hnone ⟨n, Value.ofLiteral_eq_number_iff.mp hread⟩
  refine ⟨fun s => ⟨hnumber s, hinvalid s, Value.ofLiteralBy_noted s⟩, fun n => ⟨?_, ?_⟩⟩
  · exact fun hrange => (hnumber _ n).mpr ⟨Decimal.denotes_text n, hrange⟩
  · intro hrange
    refine hinvalid _ ?_
    rintro ⟨m, hdenotes, hm⟩
    rw [hdenotes.unique (Decimal.denotes_text n)] at hm
    exact hrange hm

/-- The least literal, with zeros in front, and the least number that is too large. -/
example :
    Value.ofLiteral "-0009223372036854775808" = .number (-2 ^ 63) ∧
      Value.ofLiteral "9223372036854775808" = .error .invalidNumber := by
  decide

end PrefixCalc
