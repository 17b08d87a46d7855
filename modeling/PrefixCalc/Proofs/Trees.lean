import PrefixCalc.Proofs.Lexemes

/-!
# Trees and the Lexemes They Are Written With

Facts about the shape of trees that the reader and the evaluator share. A tree is handled by the
induction principle `Tree.inductionOn`, in which an application comes with the claim for each of
its operands; accordingly what is said of the operands together (`yieldAll`, `allProper`,
`depthAll`) is restated for each of them.

`Tree.line` is the form of an application without the parentheses around it, which is how an
expression may stand alone on a line.

## Main results

* `Tree.inductionOn`: induction over trees.
* `Tree.yield_application`: an application is its line in parentheses.
* `Tree.isProper_of_mem_yield`: a proper tree is written with proper lexemes.
-/

namespace PrefixCalc.Tree

/-- **Induction over trees**: what holds of the leaves and of values that are no node, and of an
application when it holds of its operands, holds of every tree. -/
@[elab_as_elim]
theorem inductionOn {P : Tree → Prop} (t : Tree) (leaf : ∀ literal, P (.leaf literal))
    (application : ∀ operator operands, (∀ t ∈ operands, P t) →
      P (.application operator operands))
    (foreign : ∀ value, P (.foreign value)) : P t := by
  refine @Tree.rec P (fun ts => ∀ t ∈ ts, P t) leaf application foreign ?_ ?_ t
  · intro t ht
    exact absurd ht (by simp)
  · intro t ts ht hts
    exact List.forall_mem_cons.mpr ⟨ht, hts⟩

/-! ### Written forms -/

/-- The lexemes of an application without the parentheses around it. -/
def line : Tree → List Lexeme
  | .application operator operands => .atom operator :: yieldAll operands
  | _ => []

@[simp] theorem yieldAll_nil : yieldAll [] = [] := by
  simp only [yieldAll]

@[simp] theorem yieldAll_cons (t : Tree) (ts : List Tree) :
    yieldAll (t :: ts) = t.yield ++ yieldAll ts := by
  simp only [yieldAll]

theorem yieldAll_append (ts us : List Tree) :
    yieldAll (ts ++ us) = yieldAll ts ++ yieldAll us := by
  induction ts with
  | nil => simp
  | cons t ts ih => simp [ih]

@[simp] theorem yield_leaf (literal : String) : (leaf literal).yield = [.atom literal] := by
  simp only [yield]

/-- An application is written as its line in parentheses. -/
theorem yield_application (operator : String) (operands : List Tree) :
    (application operator operands).yield =
      .opening :: ((application operator operands).line ++ [.closing]) := by
  simp only [yield, line, List.cons_append]

theorem mem_yieldAll {l : Lexeme} {ts : List Tree} :
    l ∈ yieldAll ts ↔ ∃ t ∈ ts, l ∈ t.yield := by
  induction ts with
  | nil => simp
  | cons t ts ih => simp [ih]

/-! ### Proper trees -/

theorem allProper_iff {ts : List Tree} :
    allProper ts = true ↔ ∀ t ∈ ts, t.isProper = true := by
  induction ts with
  | nil => simp [allProper]
  | cons t ts ih => simp [allProper, ih]

theorem isProper_application {operator : String} {operands : List Tree} :
    (application operator operands).isProper = true ↔
      isOperatorText operator = true ∧ operands ≠ [] ∧ ∀ t ∈ operands, t.isProper = true := by
  simp only [isProper, Bool.and_eq_true, Bool.not_eq_true', List.isEmpty_eq_false_iff,
    allProper_iff, and_assoc]

/-- An operator's text can stand by itself. -/
theorem isAtomText_of_isOperatorText {s : String} (h : isOperatorText s = true) :
    isAtomText s = true := by
  rw [isOperatorText, Bool.and_eq_true] at h
  exact h.1

theorem isOperatorText_iff {s : String} :
    isOperatorText s = true ↔ isAtomText s = true ∧ Decimal.isNumeral s.toList = false := by
  rw [isOperatorText, Bool.and_eq_true, Bool.not_eq_true']

/-- A proper tree is written with proper lexemes. -/
theorem isProper_of_mem_yield {t : Tree} (h : t.isProper = true) {l : Lexeme}
    (hl : l ∈ t.yield) : l.isProper = true := by
  induction t using inductionOn with
  | leaf literal =>
      rw [yield_leaf, List.mem_singleton] at hl
      subst hl
      rw [isProper] at h
      exact h
  | application operator operands ih =>
      obtain ⟨hoperator, -, hoperands⟩ := isProper_application.mp h
      rw [yield_application, line] at hl
      simp only [List.cons_append, List.mem_cons, List.mem_append, List.not_mem_nil, or_false,
        mem_yieldAll] at hl
      rcases hl with rfl | rfl | ⟨t, ht, hl⟩ | rfl
      · rfl
      · exact isAtomText_of_isOperatorText hoperator
      · exact ih t ht (hoperands t ht) hl
      · rfl
  | foreign value => exact absurd h (by simp [isProper])

theorem isProper_of_mem_line {t : Tree} (h : t.isProper = true) {l : Lexeme}
    (hl : l ∈ t.line) : l.isProper = true := by
  cases t with
  | leaf literal => exact absurd hl (by simp [line])
  | application operator operands =>
      refine isProper_of_mem_yield h ?_
      rw [yield_application]
      exact List.mem_cons_of_mem _ (List.mem_append_left _ hl)
  | foreign value => exact absurd hl (by simp [line])

/-! ### Depth -/

theorem depthAll_le_iff {ts : List Tree} {n : Nat} :
    depthAll ts ≤ n ↔ ∀ t ∈ ts, t.depth ≤ n := by
  induction ts with
  | nil => simp [depthAll]
  | cons t ts ih => rw [depthAll, Nat.max_le, ih, List.forall_mem_cons]

@[simp] theorem depth_application (operator : String) (operands : List Tree) :
    (application operator operands).depth = depthAll operands + 1 := by
  simp only [depth]

@[simp] theorem depth_leaf (literal : String) : (leaf literal).depth = 0 := by
  simp only [depth]

/-- An expression is an application whose operands are proper and nested no deeper than
`maxNesting`. -/
theorem wellFormed_application {operator : String} {operands : List Tree} :
    (application operator operands).WellFormed ↔
      isOperatorText operator = true ∧ operands ≠ [] ∧
        (∀ t ∈ operands, t.isProper = true) ∧ ∀ t ∈ operands, t.depth ≤ maxNesting := by
  constructor
  · rintro ⟨-, hproper, hshallow⟩
    obtain ⟨hoperator, hne, hoperands⟩ := isProper_application.mp hproper
    rw [depth_application, Nat.add_le_add_iff_right, depthAll_le_iff] at hshallow
    exact ⟨hoperator, hne, hoperands, hshallow⟩
  · rintro ⟨hoperator, hne, hoperands, hshallow⟩
    refine ⟨⟨operator, operands, rfl⟩, isProper_application.mpr ⟨hoperator, hne, hoperands⟩, ?_⟩
    rw [depth_application, Nat.add_le_add_iff_right, depthAll_le_iff]
    exact hshallow

/-! ### Regular trees -/

/-- Every node of a regular tree is a leaf or an application with operands, whatever their
texts. -/
inductive Regular : Tree → Prop
  | leaf (literal : String) : Regular (.leaf literal)
  | application (operator : String) {operands : List Tree} (hne : operands ≠ [])
      (h : ∀ t ∈ operands, Regular t) : Regular (.application operator operands)

/-- A proper tree is regular. -/
theorem regular_of_isProper {t : Tree} (h : t.isProper = true) : t.Regular := by
  induction t using inductionOn with
  | leaf literal => exact .leaf literal
  | application operator operands ih =>
      obtain ⟨-, hne, hoperands⟩ := isProper_application.mp h
      exact .application operator hne fun t ht => ih t ht (hoperands t ht)
  | foreign value => exact absurd h (by simp [isProper])

end PrefixCalc.Tree
