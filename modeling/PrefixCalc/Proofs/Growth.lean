import PrefixCalc.Proofs.FirstFault
import PrefixCalc.Proofs.Grammar

/-!
# The Growth of Numbers

Numbers are exact and of any size, but the size of what a tree evaluates to is bounded by what
is written in it: a number stays below the power of ten with as many zeros as the literals of
the tree have characters together (`Tree.literalLength`). The bound is one for all operators at
once, since two numbers below `10 ^ a` and `10 ^ b` have sum, difference, product and quotient
below `10 ^ (a + b)`.

In a text that is read as a tree, at least two characters are not in literals: the first
operator and what separates it from the first operand. So a number has at least two digits
fewer than the text that it is read from has characters.

## Main results

* `Decimal.writable_iff`: which integers can be written.
* `Tree.natAbs_lt_of_evaluate`: the bound by the literals.
* `Tree.literalLength_add_two_le`: the literals of a text that is read.
* `Tree.numbers_grow_no_further_than_written`: both bounds, and what they say of digits.
-/

namespace PrefixCalc

namespace Decimal

/-! ### Digits of an integer -/

/-- How many digits an integer has, the sign not counted; zero has one. -/
def digitCount (n : Int) : Nat :=
  n.natAbs.repr.length

theorem digitCount_le_iff {n : Int} {k : Nat} (h : 0 < k) :
    digitCount n ≤ k ↔ n.natAbs < 10 ^ k :=
  Nat.length_repr_le_iff h

theorem writeBound_eq : writeBound = 10 ^ maxDigits := by
  unfold writeBound
  -- the exponent is made a variable, so that the power is never computed
  generalize maxDigits = k
  exact Nat.pow_eq

/-- An integer can be written exactly when it does not have too many digits. -/
theorem writable_iff {n : Int} : writable n = true ↔ digitCount n ≤ maxDigits := by
  rw [digitCount_le_iff (by decide), ← writeBound_eq]
  exact decide_eq_true_iff

theorem write_eq_error_iff {n : Int} {u : Unwritable} :
    write n = .error u ↔ maxDigits < digitCount n ∧ u = .tooManyDigits := by
  rw [write, ← Nat.not_le, ← writable_iff]
  by_cases h : writable n = true
  · simp [h]
  · simp [h, eq_comm]

end Decimal

/-! ### One combination -/

/-- Two numbers combined are below the product of their bounds. -/
theorem natAbs_combination_lt {operator : String} {m n r : Int} {a b : Nat}
    (hm : m.natAbs < 10 ^ a) (hn : n.natAbs < 10 ^ b) (h : combination operator m n = .ok r) :
    r.natAbs < 10 ^ (a + b) := by
  have hsum : m.natAbs + n.natAbs < 10 ^ (a + b) := by
    rw [Nat.pow_add]
    calc m.natAbs + n.natAbs
        < m.natAbs + n.natAbs + 1 := Nat.lt_succ_self _
      _ ≤ m.natAbs * n.natAbs + m.natAbs + n.natAbs + 1 := by omega
      _ = (m.natAbs + 1) * (n.natAbs + 1) := by ring
      _ ≤ 10 ^ a * 10 ^ b := Nat.mul_le_mul hm hn
  unfold combination at h
  split at h
  · cases h
    exact Nat.lt_of_le_of_lt (Int.natAbs_add_le m n) hsum
  · cases h
    exact Nat.lt_of_le_of_lt (Int.natAbs_sub_le m n) hsum
  · cases h
    rw [Int.natAbs_mul, Nat.pow_add]
    exact Nat.mul_lt_mul'' hm hn
  · split at h
    · cases h
    · cases h
      exact Nat.lt_of_le_of_lt (Int.natAbs_tdiv_le_natAbs m n)
        (Nat.lt_of_le_of_lt (Nat.le_add_right _ _) hsum)
  · cases h

namespace Tree

/-! ### Numbers and literals -/

mutual

/-- How many characters the literals of a tree have together. -/
def literalLength : Tree → Nat
  | .leaf literal => literal.length
  | .application _ operands => literalLengthAll operands
  | .foreign _ => 0

/-- How many characters the literals of trees side by side have together. -/
def literalLengthAll : List Tree → Nat
  | [] => 0
  | t :: ts => t.literalLength + literalLengthAll ts

end

/-- A combination with further operands grows by their literals at most. -/
theorem natAbs_lt_of_reckonRest {operator : String} {ts : List Tree}
    (h : ∀ t ∈ ts, ∀ n, t.reckon = .ok n → n.natAbs < 10 ^ t.literalLength) {held n : Int}
    {a : Nat} (hheld : held.natAbs < 10 ^ a) (hn : reckonRest operator held ts = .ok n) :
    n.natAbs < 10 ^ (a + literalLengthAll ts) := by
  induction ts generalizing held a with
  | nil =>
      rw [reckonRest] at hn
      cases hn
      exact hheld
  | cons t ts ih =>
      rw [List.forall_mem_cons] at h
      obtain ⟨ht, hts⟩ := h
      cases hreckon : t.reckon with
      | error k =>
          rw [reckonRest_cons_of_error hreckon] at hn
          cases hn
      | ok m =>
          cases hcombination : combination operator held m with
          | error k =>
              rw [reckonRest_cons_of_combination_error hreckon hcombination] at hn
              cases hn
          | ok r =>
              rw [reckonRest_cons_of_ok hreckon hcombination] at hn
              have hr := natAbs_combination_lt hheld (ht m hreckon) hcombination
              rw [literalLengthAll, ← Nat.add_assoc]
              exact ih hts hr hn

/-- What a tree stands for is bounded by its literals. -/
theorem natAbs_lt_of_reckon {t : Tree} {n : Int} (h : t.reckon = .ok n) :
    n.natAbs < 10 ^ t.literalLength := by
  induction t using inductionOn generalizing n with
  | leaf literal =>
      rw [reckon] at h
      cases hread : Value.literal? literal with
      | none =>
          rw [hread] at h
          cases h
      | some m =>
          rw [hread] at h
          cases h
          rw [literalLength]
          exact Value.natAbs_lt_of_literal? hread
  | application operator operands ih =>
      cases operands with
      | nil =>
          rw [reckon.eq_def] at h
          cases h
          exact Nat.pow_pos (by decide)
      | cons t ts =>
          rw [List.forall_mem_cons] at ih
          obtain ⟨ht, hts⟩ := ih
          cases hreckon : t.reckon with
          | error k =>
              rw [reckon_application_of_error hreckon] at h
              cases h
          | ok m =>
              rw [reckon_application_of_ok hreckon] at h
              rw [literalLength, literalLengthAll]
              exact natAbs_lt_of_reckonRest (fun u hu _ => hts u hu) (ht hreckon) h
  | foreign value =>
      rw [reckon.eq_def] at h
      cases h
      exact Nat.pow_pos (by decide)

/-! ### Trees that have a value -/

/-- Further operands are combined only when each of them has a value. -/
theorem exists_evaluate_of_evaluateRest {operator : String} {held v : Value} {ts : List Tree}
    (h : evaluateRest operator held ts = .ok v) {t : Tree} (ht : t ∈ ts) :
    ∃ w, t.evaluate = .ok w := by
  induction ts generalizing held with
  | nil => exact absurd ht (by simp)
  | cons u ts ih =>
      cases hu : u.evaluate with
      | error m =>
          rw [evaluateRest, hu] at h
          cases h
      | ok w =>
          rw [evaluateRest_cons hu] at h
          rcases List.mem_cons.mp ht with rfl | ht
          · exact ⟨w, hu⟩
          · exact ih h ht

/-- Only regular trees have a value. -/
theorem regular_of_evaluate {t : Tree} {v : Value} (h : t.evaluate = .ok v) : t.Regular := by
  induction t using inductionOn generalizing v with
  | leaf literal => exact .leaf literal
  | application operator operands ih =>
      cases operands with
      | nil =>
          rw [evaluate] at h
          cases h
      | cons t ts =>
          cases ht : t.evaluate with
          | error m =>
              rw [evaluate, ht] at h
              cases h
          | ok w =>
              rw [evaluate_application ht] at h
              refine .application operator (by simp) ?_
              intro u hu
              rcases List.mem_cons.mp hu with rfl | hmem
              · exact ih u hu ht
              · obtain ⟨x, hx⟩ := exists_evaluate_of_evaluateRest h hmem
                exact ih u hu hx
  | foreign value =>
      rw [evaluate] at h
      cases h

/-- **A number is bounded by the literals of its tree**, whatever the shape of the tree and
whatever its operators. -/
theorem natAbs_lt_of_evaluate {t : Tree} {n : Int} (h : t.evaluate = .ok (.number n)) :
    n.natAbs < 10 ^ t.literalLength := by
  have hevaluate := evaluate_eq_reckon (regular_of_evaluate h)
  rw [h, Except.ok.injEq] at hevaluate
  cases hreckon : t.reckon with
  | error k =>
      rw [hreckon, Value.ofReckoning] at hevaluate
      cases hevaluate
  | ok m =>
      rw [hreckon, Value.ofReckoning] at hevaluate
      cases hevaluate
      exact natAbs_lt_of_reckon hreckon

end Tree

/-! ### Literals and texts -/

/-- Lexemes side by side take at least the room that they take apart. -/
theorem width_add_le_width_append (ls ms : List Lexeme) :
    width ls + width ms ≤ width (ls ++ ms) := by
  induction ls with
  | nil => simp [width]
  | cons l ls ih =>
      have hgap : gap l ls ≤ gap l (ls ++ ms) := by
        cases ls with
        | nil =>
            have hzero : gap l [] = 0 := by cases l <;> rfl
            rw [hzero]
            exact Nat.zero_le _
        | cons m ls => cases l <;> cases m <;> exact Nat.le_refl _
      rw [List.cons_append, width, width]
      omega

namespace Tree

theorem literalLengthAll_le_of_forall {ts : List Tree}
    (h : ∀ t ∈ ts, t.literalLength ≤ width t.yield) :
    literalLengthAll ts ≤ width (yieldAll ts) := by
  induction ts with
  | nil => exact Nat.zero_le _
  | cons t ts ih =>
      rw [List.forall_mem_cons] at h
      have hts := ih h.2
      have happend := width_add_le_width_append t.yield (yieldAll ts)
      rw [literalLengthAll, yieldAll_cons]
      have ht := h.1
      omega

/-- A pair of parentheses takes two characters. -/
theorem width_parenthesised (ls : List Lexeme) :
    width ls + 2 ≤ width (.opening :: (ls ++ [.closing])) := by
  have happend := width_add_le_width_append ls [.closing]
  have hopen : Lexeme.opening.text.length = 1 := rfl
  have hclose : width [.closing] = 1 := rfl
  rw [width, hopen]
  omega

/-- An operator takes its characters and leaves room for its operands. -/
theorem width_line (operator : String) (operands : List Tree) :
    width (application operator operands).line =
      operator.length + gap (.atom operator) (yieldAll operands) + width (yieldAll operands) := by
  rw [line, width, Lexeme.text]

/-- The literals of a tree have room in its written form. -/
theorem literalLength_le_width_yield (t : Tree) : t.literalLength ≤ width t.yield := by
  induction t using inductionOn with
  | leaf literal =>
      rw [literalLength, yield_leaf, width, Lexeme.text, Nat.add_assoc]
      exact Nat.le_add_right _ _
  | application operator operands ih =>
      have hoperands := literalLengthAll_le_of_forall ih
      have hline := width_line operator operands
      have hpair := width_parenthesised (application operator operands).line
      rw [literalLength, yield_application]
      omega
  | foreign value =>
      rw [literalLength]
      exact Nat.zero_le _

theorem literalLengthAll_le_width_yieldAll (ts : List Tree) :
    literalLengthAll ts ≤ width (yieldAll ts) :=
  literalLengthAll_le_of_forall fun t _ => literalLength_le_width_yield t

/-- An operand that is a literal is kept apart from the operator by a blank, and any other one
by its own parenthesis. -/
theorem literalLength_add_one_le (operator : String) {t : Tree} (h : t.isProper = true)
    (ls : List Lexeme) :
    t.literalLength + 1 ≤ gap (.atom operator) (t.yield ++ ls) + width t.yield := by
  cases t with
  | leaf literal =>
      have hle := literalLength_le_width_yield (leaf literal)
      have hgap : gap (.atom operator) ((leaf literal).yield ++ ls) = 1 := by
        rw [yield_leaf]
        rfl
      omega
  | application op operands =>
      have hoperands := literalLengthAll_le_width_yieldAll operands
      have hline := width_line op operands
      have hpair := width_parenthesised (application op operands).line
      rw [literalLength, yield_application]
      omega
  | foreign value => exact absurd h (by simp [isProper])

/-- The line of an expression has two characters more than its literals. -/
theorem literalLength_add_two_le_width_line {operator : String} {operands : List Tree}
    (h : (application operator operands).isProper = true) :
    (application operator operands).literalLength + 2 ≤
      width (application operator operands).line := by
  obtain ⟨hoperator, hne, hoperands⟩ := isProper_application.mp h
  have hlength : 0 < operator.length := by
    rw [← String.length_toList, List.length_pos_iff]
    exact (isAtomText_iff.mp (isAtomText_of_isOperatorText hoperator)).1
  obtain ⟨t, ts, rfl⟩ := List.exists_cons_of_ne_nil hne
  have hfirst :=
    literalLength_add_one_le operator (hoperands t (List.mem_cons_self ..)) (yieldAll ts)
  have hrest := literalLengthAll_le_width_yieldAll ts
  have happend := width_add_le_width_append t.yield (yieldAll ts)
  rw [width_line, literalLength, literalLengthAll, yieldAll_cons]
  omega

/-- **A text that is read has two characters more than its literals.** -/
theorem literalLength_add_two_le {text : String} {t : Tree} (h : parse text = .ok t) :
    t.literalLength + 2 ≤ text.length := by
  obtain ⟨hwell, hform⟩ := parse_eq_ok_iff.mp h
  obtain ⟨operator, operands, rfl⟩ := hwell.root
  have hline := literalLength_add_two_le_width_line hwell.proper
  have htext := width_lexemes_le text
  rcases hform with hform | hform
  · rw [hform] at htext
    exact Nat.le_trans hline htext
  · rw [hform, yield_application] at htext
    have hpair := width_parenthesised (application operator operands).line
    omega

/-! ### Digits and texts -/

/-- A proper tree has a character in one of its literals. -/
theorem literalLength_pos {t : Tree} (h : t.isProper = true) : 0 < t.literalLength := by
  induction t using inductionOn with
  | leaf literal =>
      rw [isProper] at h
      rw [literalLength, ← String.length_toList, List.length_pos_iff]
      exact (isAtomText_iff.mp h).1
  | application operator operands ih =>
      obtain ⟨-, hne, hoperands⟩ := isProper_application.mp h
      obtain ⟨t, ts, rfl⟩ := List.exists_cons_of_ne_nil hne
      have hfirst := ih t (List.mem_cons_self ..) (hoperands t (List.mem_cons_self ..))
      rw [literalLength, literalLengthAll]
      omega
  | foreign value => exact absurd h (by simp [isProper])

/-- **A text has two characters more than its number has digits.** -/
theorem digitCount_add_two_le {text : String} {t : Tree} {n : Int} (hparse : parse text = .ok t)
    (hn : t.evaluate = .ok (.number n)) : Decimal.digitCount n + 2 ≤ text.length := by
  have hpos := literalLength_pos (parse_eq_ok_iff.mp hparse).1.proper
  have hdigits : Decimal.digitCount n ≤ t.literalLength :=
    (Decimal.digitCount_le_iff hpos).mpr (natAbs_lt_of_evaluate hn)
  exact Nat.le_trans (Nat.add_le_add_right hdigits 2) (literalLength_add_two_le hparse)

/-- **Numbers grow no further than what is written.** A number that a tree evaluates to, whatever
the shape of the tree and whatever its operators, is below the power of ten with as many zeros as
the literals of the tree have characters together. If the tree is read from a text, two characters
of the text are not in literals, and so the number has at least two digits fewer than the text has
characters. -/
theorem numbers_grow_no_further_than_written (t : Tree) :
    (∀ n, t.evaluate = .ok (.number n) → n.natAbs < 10 ^ t.literalLength) ∧
      ∀ text, parse text = .ok t →
        t.literalLength + 2 ≤ text.length ∧
          ∀ n, t.evaluate = .ok (.number n) → Decimal.digitCount n + 2 ≤ text.length := by
  constructor
  · intro n hn
    exact natAbs_lt_of_evaluate hn
  · intro text hparse
    refine ⟨literalLength_add_two_le hparse, ?_⟩
    intro n hn
    exact digitCount_add_two_le hparse hn

/-- Two literals with three characters together, and their product, which has three digits. -/
theorem product_grows_no_further_than_written :
    let t := application "*" [.leaf "9", .leaf "99"]
    t.evaluate = .ok (.number 891) ∧ (891 : Int).natAbs < 10 ^ t.literalLength ∧
      parse "* 9 99" = .ok t ∧ t.literalLength + 2 ≤ 6 ∧ Decimal.digitCount 891 + 2 ≤ 6 := by
  intro t
  have hevaluate : t.evaluate = .ok (.number 891) := by rfl
  have hparse : parse "* 9 99" = .ok t := by rfl
  obtain ⟨hbound, htext⟩ := numbers_grow_no_further_than_written t
  obtain ⟨hliterals, hdigits⟩ := htext _ hparse
  exact ⟨hevaluate, hbound 891 hevaluate, hparse, hliterals, hdigits 891 hevaluate⟩

end Tree

end PrefixCalc
