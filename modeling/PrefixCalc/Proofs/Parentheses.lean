import Mathlib.Algebra.Ring.Int.Defs
import PrefixCalc.Proofs.Trees
import PrefixCalc.Tree.Reader

/-!
# Parentheses of a Line

Before a line is read, a scan of its lexemes looks for the parenthesis that closes the first one
(`closingIndex`). This module says what the scan finds without the scan: with `surplus` counting
how many more parentheses open than close, the first parenthesis is closed by the lexeme with
which the surplus first comes back to zero (`ClosesAt`).

The lexemes of a tree have no surplus and never bring it below where it started, so the scan
passes over a whole tree at once. That decides the two forms of a line: an expression without
parentheses around it is not taken for parenthesised, and one with them is.

## Main results

* `closingIndex_eq_some_iff`: the scan finds the closing parenthesis of the first lexeme.
* `surplus_yield`: a tree opens as many parentheses as it closes.
* `closingFrom_yield_append`: the scan passes over the lexemes of a tree.
* `isParenthesised_line`, `isParenthesised_yield`: how the two forms of a line are told apart.
-/

namespace PrefixCalc

/-! ### Surplus -/

/-- What a lexeme adds to the number of open parentheses. -/
def Lexeme.rise : Lexeme → Int
  | .opening => 1
  | .closing => -1
  | .atom _ => 0

/-- How many more parentheses open than close. -/
def surplus (ls : List Lexeme) : Int :=
  (ls.map Lexeme.rise).sum

@[simp] theorem surplus_nil : surplus [] = 0 := rfl

@[simp] theorem surplus_cons (l : Lexeme) (ls : List Lexeme) :
    surplus (l :: ls) = l.rise + surplus ls := by
  simp [surplus]

@[simp] theorem surplus_append (ls ms : List Lexeme) :
    surplus (ls ++ ms) = surplus ls + surplus ms := by
  simp [surplus]

@[simp] theorem rise_opening : Lexeme.opening.rise = 1 := rfl

@[simp] theorem rise_closing : Lexeme.closing.rise = -1 := rfl

@[simp] theorem rise_atom (s : String) : (Lexeme.atom s).rise = 0 := rfl

theorem surplus_yieldAll_of_forall {ts : List Tree} (h : ∀ t ∈ ts, surplus t.yield = 0) :
    surplus (Tree.yieldAll ts) = 0 := by
  induction ts with
  | nil => simp
  | cons t ts ih =>
      rw [List.forall_mem_cons] at h
      rw [Tree.yieldAll_cons, surplus_append, h.1, ih h.2, add_zero]

/-- A tree opens as many parentheses as it closes. -/
@[simp] theorem surplus_yield (t : Tree) : surplus t.yield = 0 := by
  induction t using Tree.inductionOn with
  | leaf literal => simp
  | application operator operands ih =>
      simp [Tree.yield_application, Tree.line, surplus_yieldAll_of_forall ih]
  | foreign value => simp [Tree.yield]

/-- A line opens as many parentheses as it closes. -/
@[simp] theorem surplus_line (t : Tree) : surplus t.line = 0 := by
  cases t with
  | leaf literal => rfl
  | application operator operands =>
      simp [Tree.line, surplus_yieldAll_of_forall fun t _ => surplus_yield t]
  | foreign value => rfl

/-! ### The scan for the closing parenthesis -/

/-- The parenthesis that a line starts with is closed by the lexeme at an index: with it as many
parentheses close as open, and not before. -/
structure ClosesAt (ls : List Lexeme) (i : Nat) : Prop where
  closing : ls[i]? = some .closing
  even : surplus (ls.take (i + 1)) = 0
  unclosed : ∀ j, 0 < j → j ≤ i → 0 < surplus (ls.take j)

namespace Reader

/-- The lexeme at an index is the first with which the depth, counted from `depth`, comes down
to zero. -/
def ComesToZeroAt (depth : Int) (ls : List Lexeme) (i : Nat) : Prop :=
  ls[i]? = some .closing ∧ depth + surplus (ls.take (i + 1)) = 0 ∧
    ∀ j ≤ i, 0 < depth + surplus (ls.take j)

theorem comesToZeroAt_cons_zero {depth : Int} (hdepth : 0 < depth) {l : Lexeme}
    {ls : List Lexeme} :
    ComesToZeroAt depth (l :: ls) 0 ↔ l = .closing ∧ depth = 1 := by
  constructor
  · rintro ⟨hl, hzero, -⟩
    obtain rfl : l = .closing := by simpa using hl
    simp only [Nat.zero_add, List.take_succ_cons, List.take_zero, surplus_cons, rise_closing,
      surplus_nil] at hzero
    exact ⟨rfl, by omega⟩
  · rintro ⟨rfl, rfl⟩
    refine ⟨rfl, by simp, ?_⟩
    intro j hj
    obtain rfl : j = 0 := by omega
    simp

theorem comesToZeroAt_cons_succ {depth : Int} (hdepth : 0 < depth) {l : Lexeme}
    {ls : List Lexeme} {i : Nat} :
    ComesToZeroAt depth (l :: ls) (i + 1) ↔ ComesToZeroAt (depth + l.rise) ls i := by
  have htake : ∀ j, depth + surplus ((l :: ls).take (j + 1)) =
      depth + l.rise + surplus (ls.take j) := by
    intro j
    rw [List.take_succ_cons, surplus_cons, add_assoc]
  unfold ComesToZeroAt
  rw [List.getElem?_cons_succ, htake]
  constructor
  · rintro ⟨hl, hzero, hbefore⟩
    refine ⟨hl, hzero, ?_⟩
    intro j hj
    have h := hbefore (j + 1) (by omega)
    rwa [htake] at h
  · rintro ⟨hl, hzero, hbefore⟩
    refine ⟨hl, hzero, ?_⟩
    intro j hj
    cases j with
    | zero => simpa using hdepth
    | succ j =>
        rw [htake]
        exact hbefore j (by omega)

/-- From a positive depth, the scan finds the first lexeme that brings the depth to zero. -/
theorem closingFrom_eq_some_iff {depth : Int} (hdepth : 0 < depth) {ls : List Lexeme}
    {i : Nat} : closingFrom depth ls = some i ↔ ComesToZeroAt depth ls i := by
  induction ls generalizing depth i with
  | nil => simp [closingFrom, ComesToZeroAt]
  | cons l ls ih =>
      cases l with
      | opening =>
          rw [closingFrom]
          cases i with
          | zero => simp [comesToZeroAt_cons_zero hdepth]
          | succ i =>
              rw [comesToZeroAt_cons_succ hdepth, rise_opening, ← ih (by omega)]
              simp
      | closing =>
          rw [closingFrom]
          by_cases hone : depth = 1
          · rw [if_pos hone]
            cases i with
            | zero =>
                rw [comesToZeroAt_cons_zero hdepth]
                simp [hone]
            | succ i =>
                rw [comesToZeroAt_cons_succ hdepth, rise_closing]
                refine ⟨fun h => absurd h (by simp), ?_⟩
                rintro ⟨-, -, hbefore⟩
                have h := hbefore 0 (by omega)
                simp only [List.take_zero, surplus_nil] at h
                omega
          · rw [if_neg hone]
            cases i with
            | zero => simp [comesToZeroAt_cons_zero hdepth, hone]
            | succ i =>
                rw [comesToZeroAt_cons_succ hdepth, rise_closing, ← sub_eq_add_neg,
                  ← ih (by omega)]
                simp
      | atom s =>
          rw [closingFrom]
          cases i with
          | zero => simp [comesToZeroAt_cons_zero hdepth]
          | succ i =>
              rw [comesToZeroAt_cons_succ hdepth, rise_atom, add_zero, ← ih hdepth]
              simp

end Reader

/-- **The scan finds the lexeme that closes the first parenthesis.** -/
theorem closingIndex_eq_some_iff {ls : List Lexeme} {i : Nat} :
    closingIndex (.opening :: ls) = some i ↔ ClosesAt (.opening :: ls) i := by
  have hscan : closingIndex (.opening :: ls) = (Reader.closingFrom 1 ls).map (· + 1) := rfl
  rw [hscan]
  cases i with
  | zero =>
      refine ⟨fun h => absurd h (by simp), ?_⟩
      rintro ⟨hclosing, -, -⟩
      exact absurd hclosing (by simp)
  | succ i =>
      have hfirst : (Reader.closingFrom 1 ls).map (· + 1) = some (i + 1) ↔
          Reader.ComesToZeroAt 1 ls i := by
        rw [← Reader.closingFrom_eq_some_iff (by decide)]
        simp
      rw [hfirst]
      constructor
      · rintro ⟨hclosing, heven, hbefore⟩
        refine ⟨hclosing, ?_, ?_⟩
        · rw [List.take_succ_cons, surplus_cons, rise_opening, heven]
        · intro j hj hji
          obtain ⟨j, rfl⟩ : ∃ j', j = j' + 1 := ⟨j - 1, by omega⟩
          rw [List.take_succ_cons, surplus_cons, rise_opening]
          exact hbefore j (by omega)
      · rintro ⟨hclosing, heven, hbefore⟩
        refine ⟨hclosing, ?_, ?_⟩
        · rwa [List.take_succ_cons, surplus_cons, rise_opening] at heven
        · intro j hj
          have h := hbefore (j + 1) (by omega) (by omega)
          rwa [List.take_succ_cons, surplus_cons, rise_opening] at h

/-! ### The scan over a tree -/

namespace Reader

theorem closingFrom_yieldAll_append (depth : Int) {ts : List Tree}
    (h : ∀ t ∈ ts, ∀ rest, closingFrom depth (t.yield ++ rest) =
      (closingFrom depth rest).map (· + t.yield.length)) (rest : List Lexeme) :
    closingFrom depth (Tree.yieldAll ts ++ rest) =
      (closingFrom depth rest).map (· + (Tree.yieldAll ts).length) := by
  induction ts with
  | nil => simp
  | cons t ts ih =>
      rw [List.forall_mem_cons] at h
      rw [Tree.yieldAll_cons, List.append_assoc, h.1, ih h.2, Option.map_map,
        List.length_append]
      congr 1
      funext i
      simp only [Function.comp_apply]
      omega

/-- Inside parentheses, the scan passes over the lexemes of a tree. -/
theorem closingFrom_yield_append {depth : Int} (hdepth : 0 < depth) (t : Tree)
    (rest : List Lexeme) :
    closingFrom depth (t.yield ++ rest) = (closingFrom depth rest).map (· + t.yield.length) := by
  induction t using Tree.inductionOn generalizing depth rest with
  | leaf literal =>
      rw [Tree.yield_leaf, List.singleton_append, closingFrom, List.length_singleton]
  | application operator operands ih =>
      have hoperands := closingFrom_yieldAll_append (depth + 1)
        (fun t ht => ih t ht (by omega)) (.closing :: rest)
      have hne : ¬ depth + 1 = 1 := by omega
      rw [Tree.yield_application, Tree.line]
      simp only [List.cons_append, List.append_assoc, List.nil_append, closingFrom, hoperands,
        if_neg hne, add_sub_cancel_right, Option.map_map, List.length_cons, List.length_append,
        List.length_nil]
      congr 1
      funext i
      simp only [Function.comp_apply]
      omega
  | foreign value => simp [Tree.yield]

end Reader

/-- The parentheses of an application close with its last lexeme. -/
theorem closingIndex_yield_append (operator : String) (operands : List Tree)
    (rest : List Lexeme) :
    closingIndex ((Tree.application operator operands).yield ++ rest) =
      some ((Tree.application operator operands).line.length + 1) := by
  have hoperands := Reader.closingFrom_yieldAll_append 1
    (fun t (_ : t ∈ operands) => Reader.closingFrom_yield_append (by decide) t)
    (.closing :: rest)
  rw [Tree.yield_application, Tree.line, closingIndex]
  simp only [List.cons_append, List.append_assoc, List.nil_append, Reader.closingFrom, Int.zero_add,
    Nat.zero_add, hoperands, if_true, Option.map_some, List.length_cons]

/-! ### The two forms of a line -/

theorem isParenthesised_line (t : Tree) : isParenthesised t.line = false := by
  cases t with
  | leaf literal => rfl
  | application operator operands => rfl
  | foreign value => rfl

theorem isParenthesised_yield (operator : String) (operands : List Tree) :
    isParenthesised (Tree.application operator operands).yield = true := by
  have hclose := closingIndex_yield_append operator operands []
  rw [List.append_nil, Tree.yield_application] at hclose
  rw [Tree.yield_application, isParenthesised, hclose]
  simp

/-- A line that starts with a parenthesis is not taken for parenthesised exactly when that
parenthesis is closed before the end of the line. -/
theorem isParenthesised_opening_eq_false_iff {ls : List Lexeme} :
    isParenthesised (.opening :: ls) = false ↔
      ∃ i, ClosesAt (.opening :: ls) i ∧ i + 1 ≠ ls.length + 1 := by
  rw [isParenthesised]
  cases h : closingIndex (.opening :: ls) with
  | none =>
      refine ⟨fun h => absurd h (by simp), ?_⟩
      rintro ⟨i, hi, -⟩
      rw [← closingIndex_eq_some_iff, h] at hi
      exact absurd hi (by simp)
  | some i =>
      have hi := closingIndex_eq_some_iff.mp h
      constructor
      · intro hne
        exact ⟨i, hi, by simpa using hne⟩
      · rintro ⟨j, hj, hne⟩
        rw [← closingIndex_eq_some_iff, h, Option.some.injEq] at hj
        subst hj
        simpa using hne

end PrefixCalc
