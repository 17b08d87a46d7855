import PrefixCalc.Proofs.FirstFault
import PrefixCalc.Proofs.LeafValues

/-!
# Constant Folding

A subtree that evaluates to a number can be replaced by a leaf, the decimal text of the number.
This module says what becomes of the outcome of the whole tree when that is done at one position,
or at once at any positions of which none lies below another.

The argument has two parts. The evaluator takes nothing from an operand but its outcome, so a tree
keeps its own when a subtree is replaced by one with the same outcome, whether it is a number, an
error or a malformed node elsewhere that the tree ends in. And the decimal text of a number is a
leaf for that number exactly in the range of the literals; beyond it the leaf is an invalid number,
although the subtree had a value.

## Main results

* `Tree.evaluate_application_congr`: an application depends on the outcomes of its operands.
* `Tree.evaluate_replaceAll_congr`: where replacing changes no outcome.
* `Tree.evaluate_fold`: folding the numbers in range changes no outcome.
* `Tree.constant_folding_is_sound_in_range`: folding at one position and at many.
-/

namespace PrefixCalc

instance Value.decidableInRange : DecidablePred Value.InRange := fun _ =>
  inferInstanceAs (Decidable (_ ∧ _))

namespace Tree

/-! ### Positions -/

/-- A way down from the root of a tree: the place of an operand, the place of one of its operands,
and so on. -/
abbrev Position := List Nat

/-- The subtree at a position, if the position lies in the tree. -/
def subtree? : Tree → Position → Option Tree
  | t, [] => some t
  | .application _ operands, i :: p => operands[i]?.bind fun t => t.subtree? p
  | _, _ :: _ => none

/-- A tree with another tree at a position. -/
def replaceAt : Tree → Position → Tree → Tree
  | _, [], u => u
  | .application operator operands, i :: p, u =>
    .application operator (operands.modify i fun t => t.replaceAt p u)
  | t, _ :: _, _ => t

mutual

/-- A tree with other trees at all positions for which there is one, put there at once. Of what
stood there nothing is kept, so below such a position there is no other. -/
def replaceAll : Tree → (Position → Option Tree) → Tree
  | .leaf literal, new => (new []).getD (.leaf literal)
  | .application operator operands, new =>
    (new []).getD (.application operator (replaceOperands operands 0 new))
  | .foreign value, new => (new []).getD (.foreign value)

/-- The same for operands, the first of which stands at a given place. -/
def replaceOperands : List Tree → Nat → (Position → Option Tree) → List Tree
  | [], _, _ => []
  | t :: ts, i, new => t.replaceAll (fun p => new (i :: p)) :: replaceOperands ts (i + 1) new

end

@[simp] theorem subtree?_nil (t : Tree) : t.subtree? [] = some t := by
  cases t <;> rfl

@[simp] theorem subtree?_application (operator : String) (operands : List Tree) (i : Nat)
    (p : Position) :
    (application operator operands).subtree? (i :: p) =
      operands[i]?.bind fun t => t.subtree? p := rfl

@[simp] theorem replaceAt_nil (t u : Tree) : t.replaceAt [] u = u := by
  cases t <;> rfl

theorem replaceAll_of_some {new : Position → Option Tree} {u : Tree} (h : new [] = some u)
    (t : Tree) : t.replaceAll new = u := by
  cases t <;> rw [replaceAll, h, Option.getD_some]

theorem replaceAll_application_of_none {new : Position → Option Tree} (h : new [] = none)
    (operator : String) (operands : List Tree) :
    (application operator operands).replaceAll new =
      .application operator (replaceOperands operands 0 new) := by
  rw [replaceAll, h, Option.getD_none]

theorem getElem?_replaceOperands (ts : List Tree) (k : Nat) (new : Position → Option Tree)
    (i : Nat) :
    (replaceOperands ts k new)[i]? =
      ts[i]?.map fun t => t.replaceAll fun p => new ((k + i) :: p) := by
  induction ts generalizing k i with
  | nil => simp [replaceOperands]
  | cons t ts ih =>
      rw [replaceOperands]
      cases i with
      | zero => rfl
      | succ i =>
          rw [List.getElem?_cons_succ, List.getElem?_cons_succ, ih, Nat.add_right_comm,
            Nat.add_assoc]

/-- Nothing to put anywhere leaves a tree as it is. -/
theorem replaceAll_none (t : Tree) : (t.replaceAll fun _ => none) = t := by
  induction t using inductionOn with
  | leaf literal => rfl
  | application operator operands ih =>
      rw [replaceAll_application_of_none rfl]
      congr 1
      refine List.ext_getElem? fun i => ?_
      rw [getElem?_replaceOperands]
      cases hoperand : operands[i]? with
      | none => rfl
      | some t => rw [Option.map_some, ih t (List.mem_of_getElem? hoperand)]
  | foreign value => rfl

/-- One position is a case of many. -/
theorem replaceAt_eq_replaceAll (t : Tree) (p : Position) (u : Tree) :
    t.replaceAt p u = t.replaceAll fun q => if q = p then some u else none := by
  induction p generalizing t with
  | nil => rw [replaceAt_nil, replaceAll_of_some (if_pos rfl)]
  | cons i p ih =>
      cases t with
      | application operator operands =>
          rw [replaceAll_application_of_none (if_neg (List.cons_ne_nil i p).symm), replaceAt]
          congr 1
          refine List.ext_getElem? fun j => ?_
          rw [getElem?_replaceOperands, List.getElem?_modify, Nat.zero_add]
          by_cases hij : i = j
          · subst hij
            simp [ih]
          · have hother : j ≠ i := Ne.symm hij
            simp [hij, hother, replaceAll_none]
      | _ => rfl

/-- What is put at a position stands there, unless something is put above it. -/
theorem subtree?_replaceAll {t v : Tree} {p : Position} (hv : t.subtree? p = some v)
    {new : Position → Option Tree} {u : Tree} (hu : new p = some u)
    (habove : ∀ q, q <+: p → q ≠ p → new q = none) : (t.replaceAll new).subtree? p = some u := by
  induction p generalizing t new with
  | nil => rw [replaceAll_of_some hu, subtree?_nil]
  | cons i p ih =>
      cases t with
      | application operator operands =>
          rw [subtree?_application] at hv
          obtain ⟨t, ht, hv⟩ := Option.bind_eq_some_iff.mp hv
          rw [replaceAll_application_of_none
              (habove [] List.nil_prefix (List.cons_ne_nil i p).symm),
            subtree?_application, getElem?_replaceOperands, ht, Option.map_some, Option.bind_some,
            Nat.zero_add]
          refine ih hv hu fun q hq hne => ?_
          exact habove (i :: q) (List.cons_prefix_cons.mpr ⟨rfl, hq⟩) (by simpa using hne)
      | _ => cases hv

/-! ### Outcomes -/

/-- Combining takes nothing from an operand but its outcome. -/
theorem evaluateRest_eq_foldlM (operator : String) (held : Value) (ts : List Tree) :
    evaluateRest operator held ts =
      (ts.map evaluate).foldlM (fun held x => x.map (held.combine operator)) held := by
  induction ts generalizing held with
  | nil => exact evaluateRest_nil operator held
  | cons t ts ih =>
      rw [evaluateRest, List.map_cons, List.foldlM_cons]
      cases t.evaluate with
      | error m => rfl
      | ok v => exact ih (held.combine operator v)

/-- **An application depends on the outcomes of its operands**, and on nothing else of them. -/
theorem evaluate_application_congr {ts us : List Tree} (h : ts.map evaluate = us.map evaluate)
    (operator : String) :
    (application operator ts).evaluate = (application operator us).evaluate := by
  cases ts with
  | nil => rw [List.map_eq_nil_iff.mp h.symm]
  | cons t ts =>
      obtain ⟨u, us, rfl, hu, hus⟩ := List.map_eq_cons_iff.mp h.symm
      rw [evaluate, evaluate, hu]
      simp only [evaluateRest_eq_foldlM, hus]

/-- A tree that is put in the place of a whole tree, with the same outcome. -/
theorem evaluate_replaceAll_root {t u : Tree} {new old : Position → Option Tree}
    (hnew : new [] = some u) (heq : u.evaluate = t.evaluate) (hold : ∀ q, old q = none) :
    (t.replaceAll new).evaluate = (t.replaceAll old).evaluate := by
  have hnone : old = fun _ => none := funext hold
  rw [replaceAll_of_some hnew, heq, hnone, replaceAll_none]

/-- **Replacing changes no outcome** where each tree that is put has the outcome of the one that
it replaces. It may do so beside other replacements, which are made in both trees. -/
theorem evaluate_replaceAll_congr {t : Tree} {new old : Position → Option Tree}
    (h : ∀ p v, t.subtree? p = some v → new p = old p ∨
      ∃ u, new p = some u ∧ u.evaluate = v.evaluate ∧ ∀ q, old (p ++ q) = none) :
    (t.replaceAll new).evaluate = (t.replaceAll old).evaluate := by
  induction t using inductionOn generalizing new old with
  | leaf literal =>
      obtain hsame | ⟨u, hnew, heq, hold⟩ := h [] _ (subtree?_nil _)
      · rw [replaceAll, replaceAll, hsame]
      · exact evaluate_replaceAll_root hnew heq hold
  | application operator operands ih =>
      obtain hsame | ⟨u, hnew, heq, hold⟩ := h [] _ (subtree?_nil _)
      · cases hroot : old [] with
        | some u => rw [replaceAll_of_some hroot, replaceAll_of_some (hsame.trans hroot)]
        | none =>
            rw [replaceAll_application_of_none hroot,
              replaceAll_application_of_none (hsame.trans hroot)]
            refine evaluate_application_congr (List.ext_getElem? fun i => ?_) operator
            rw [List.getElem?_map, List.getElem?_map, getElem?_replaceOperands,
              getElem?_replaceOperands]
            cases hoperand : operands[i]? with
            | none => rfl
            | some t =>
                rw [Option.map_some, Option.map_some, Option.map_some, Option.map_some,
                  Nat.zero_add, ih t (List.mem_of_getElem? hoperand) fun p v hv =>
                    h (i :: p) v (by rw [subtree?_application, hoperand, Option.bind_some, hv])]
      · exact evaluate_replaceAll_root hnew heq hold
  | foreign value =>
      obtain hsame | ⟨u, hnew, heq, hold⟩ := h [] _ (subtree?_nil _)
      · rw [replaceAll, replaceAll, hsame]
      · exact evaluate_replaceAll_root hnew heq hold

/-! ### Constants -/

/-- Numbers for subtrees: at each position that there is one for, the tree has a subtree that
evaluates to it, and no such position lies below another. -/
structure Constants (t : Tree) (numbers : Position → Option Int) : Prop where
  stands : ∀ p n, numbers p = some n → ∃ u, t.subtree? p = some u ∧ u.evaluate = .ok (.number n)
  disjoint : ∀ p q m n, numbers p = some m → numbers q = some n → p <+: q → p = q

/-- A tree in which subtrees are replaced, at once, by the decimal texts of numbers. -/
def fold (t : Tree) (numbers : Position → Option Int) : Tree :=
  t.replaceAll fun p => (numbers p).map fun n => .leaf (Decimal.text n)

/-- The numbers that are no literals. -/
def beyond (numbers : Position → Option Int) (p : Position) : Option Int :=
  (numbers p).filter fun n => ¬ Value.InRange n

theorem evaluate_leaf_text {n : Int} (h : Value.InRange n) :
    (leaf (Decimal.text n)).evaluate = .ok (.number n) := by
  rw [evaluate_leaf, Value.ofLiteral_eq_number_iff.mpr ⟨Decimal.denotes_text n, h⟩]

theorem evaluate_leaf_text_of_not_inRange {n : Int} (h : ¬ Value.InRange n) :
    (leaf (Decimal.text n)).evaluate = .ok (.error .invalidNumber) := by
  rw [evaluate_leaf, Value.ofLiteral_eq_invalidNumber]
  intro m hm
  obtain ⟨hdenotes, hrange⟩ := Value.ofLiteral_eq_number_iff.mp hm
  exact h (hdenotes.unique (Decimal.denotes_text n) ▸ hrange)

/-- The subtree at one position. -/
theorem constants_single {t u : Tree} {p : Position} {n : Int} (hu : t.subtree? p = some u)
    (hn : u.evaluate = .ok (.number n)) :
    t.Constants fun q => if q = p then some n else none where
  stands q m hm := by
    rw [Option.ite_none_right_eq_some, Option.some.injEq] at hm
    obtain ⟨rfl, rfl⟩ := hm
    exact ⟨u, hu, hn⟩
  disjoint q r m k hm hk _ := by
    rw [Option.ite_none_right_eq_some] at hm hk
    exact hm.1.trans hk.1.symm

theorem fold_single (t : Tree) (p : Position) (n : Int) :
    (t.fold fun q => if q = p then some n else none) = t.replaceAt p (.leaf (Decimal.text n)) := by
  rw [replaceAt_eq_replaceAll, fold]
  congr 1
  funext q
  by_cases hq : q = p <;> simp [hq]

variable {t : Tree} {numbers : Position → Option Int}

/-- Each number stands in the folded tree where its subtree stood. -/
theorem Constants.subtree?_fold (h : t.Constants numbers) {p : Position} {n : Int}
    (hn : numbers p = some n) : (t.fold numbers).subtree? p = some (.leaf (Decimal.text n)) := by
  obtain ⟨v, hv, -⟩ := h.stands p n hn
  refine subtree?_replaceAll hv (by rw [hn, Option.map_some]) fun q hq hne => ?_
  cases hm : numbers q with
  | none => rfl
  | some m => exact absurd (h.disjoint q p m n hm hn hq) hne

/-- **Folding the numbers in range changes no outcome**, also beside numbers that are not. -/
theorem evaluate_fold (h : t.Constants numbers) :
    (t.fold numbers).evaluate = (t.fold (beyond numbers)).evaluate := by
  refine evaluate_replaceAll_congr fun p v hv => ?_
  cases hn : numbers p with
  | none => exact .inl (by simp [beyond, hn])
  | some n =>
      by_cases hrange : Value.InRange n
      · refine .inr ⟨_, rfl, ?_, fun q => ?_⟩
        · obtain ⟨u, hu, heq⟩ := h.stands p n hn
          rw [hv, Option.some.injEq] at hu
          rw [evaluate_leaf_text hrange, hu, heq]
        · cases hm : numbers (p ++ q) with
          | none => simp [beyond, hm]
          | some m =>
              -- no position lies below another, so it is the same one
              have hsame := h.disjoint p (p ++ q) n m hn hm (List.prefix_append p q)
              rw [← hsame, hn, Option.some.injEq] at hm
              subst hm
              simp [beyond, ← hsame, hn, hrange]
      · exact .inl (by simp [beyond, hn, hrange])

theorem evaluate_fold_of_inRange (h : t.Constants numbers)
    (hrange : ∀ p n, numbers p = some n → Value.InRange n) :
    (t.fold numbers).evaluate = t.evaluate := by
  have hnone : beyond numbers = fun _ => none := by
    funext p
    cases hn : numbers p with
    | none => simp [beyond, hn]
    | some n => simp [beyond, hn, hrange p n hn]
  rw [evaluate_fold h, hnone]
  exact congrArg evaluate (replaceAll_none t)

/-- **Constant folding is sound in the range of the literals**, and there only.

A subtree with a number in range can be replaced by the text of the number: the outcome of the
whole tree stays what it is, a number, an error or a malformed node. The text of a number beyond
is an invalid number. The same holds of any set of subtrees that are replaced at once, of which
none lies below another: with all numbers in range the outcome stays what it is, and in any case
it is as if only the numbers beyond were put in. -/
theorem constant_folding_is_sound_in_range (t : Tree) :
    (∀ p u n, t.subtree? p = some u → u.evaluate = .ok (.number n) →
      (Value.InRange n → (t.replaceAt p (.leaf (Decimal.text n))).evaluate = t.evaluate) ∧
      (¬ Value.InRange n → (leaf (Decimal.text n)).evaluate = .ok (.error .invalidNumber))) ∧
    ∀ numbers, t.Constants numbers →
      ((∀ p n, numbers p = some n → Value.InRange n) →
        (t.fold numbers).evaluate = t.evaluate) ∧
      (t.fold numbers).evaluate = (t.fold (beyond numbers)).evaluate ∧
      ∀ p n, numbers p = some n →
        (t.fold numbers).subtree? p = some (.leaf (Decimal.text n)) ∧
        (¬ Value.InRange n →
          (leaf (Decimal.text n)).evaluate = .ok (.error .invalidNumber)) := by
  refine ⟨fun p u n hu hn => ⟨fun hrange => ?_, evaluate_leaf_text_of_not_inRange⟩,
    fun numbers h => ⟨evaluate_fold_of_inRange h, evaluate_fold h, fun p n hn =>
      ⟨h.subtree?_fold hn, evaluate_leaf_text_of_not_inRange⟩⟩⟩
  rw [← fold_single]
  refine evaluate_fold_of_inRange (constants_single hu hn) fun q m hm => ?_
  rw [Option.ite_none_right_eq_some, Option.some.injEq] at hm
  exact hm.2 ▸ hrange

/-- A difference and a divisor folded at once, in a tree that ends in a division by zero, beside a
product that is too large for a literal. -/
theorem constant_folding_is_sound_of_two :
    let t : Tree := .application "+"
      [.application "-" [.leaf "5", .leaf "3"],
        .application "*" [.leaf "9223372036854775807", .leaf "2"],
        .application "/" [.leaf "6", .application "-" [.leaf "1", .leaf "1"]]]
    let numbers : Position → Option Int := fun p =>
      if p = [0] then some 2 else if p = [2, 1] then some 0 else none
    t.Constants numbers ∧ (∀ p n, numbers p = some n → Value.InRange n) ∧
      t.evaluate = .ok (.error .divisionByZero) ∧ (t.fold numbers).evaluate = t.evaluate ∧
      (t.replaceAt [0] (.leaf "2")).evaluate = t.evaluate ∧
      ¬ Value.InRange 18446744073709551614 ∧
      (leaf "18446744073709551614").evaluate = .ok (.error .invalidNumber) := by
  intro t numbers
  have hnumbers : ∀ p n, numbers p = some n → p = [0] ∧ n = 2 ∨ p = [2, 1] ∧ n = 0 := by
    intro p n hn
    simp only [numbers] at hn
    split_ifs at hn with hfirst hlast
    · exact .inl ⟨hfirst, (Option.some.inj hn).symm⟩
    · exact .inr ⟨hlast, (Option.some.inj hn).symm⟩
  have hconstants : t.Constants numbers := by
    refine ⟨fun p n hn => ?_, fun p q m n hm hn hpq => ?_⟩
    · rcases hnumbers p n hn with ⟨rfl, rfl⟩ | ⟨rfl, rfl⟩
      · exact ⟨_, rfl, rfl⟩
      · exact ⟨_, rfl, rfl⟩
    · rcases hnumbers p m hm with ⟨rfl, rfl⟩ | ⟨rfl, rfl⟩ <;>
        rcases hnumbers q n hn with ⟨rfl, rfl⟩ | ⟨rfl, rfl⟩ <;>
        first | rfl | exact absurd hpq (by decide)
  have hrange : ∀ p n, numbers p = some n → Value.InRange n := by
    intro p n hn
    rcases hnumbers p n hn with ⟨-, rfl⟩ | ⟨-, rfl⟩ <;> decide
  obtain ⟨hone, hmany⟩ := constant_folding_is_sound_in_range t
  exact ⟨hconstants, hrange, rfl, (hmany numbers hconstants).1 hrange,
    (hone [0] _ 2 rfl rfl).1 (by decide), by decide,
    (hone [1] _ 18446744073709551614 rfl rfl).2 (by decide)⟩

end Tree

end PrefixCalc
