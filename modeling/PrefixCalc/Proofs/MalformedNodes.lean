import PrefixCalc.Proofs.ServiceAnswers

/-!
# Malformed Nodes

A tree that was built by hand may hold nodes that the reader never makes: applications without
operands, and values that are no node at all. The evaluator goes on behind an error value, so it
comes to every node of a tree, and it is stopped by malformed nodes and by nothing else.

The order in which it comes to them is that of `Tree.nodes`, depth first and from left to right.
This list is made without a look at any value. That the first malformed node in it is the one
reported (`Tree.stopsAt_evaluate`) therefore says that no error value and no division by
zero before that node hides it.

## Main results

* `Tree.stopsAt_evaluate`: the evaluator is stopped by the first flaw among the nodes.
* `Tree.first_malformed_node_is_reported`: which failure it ends in, and when in none.
-/

namespace PrefixCalc.Tree

/-! ### The nodes of a tree -/

mutual

/-- The nodes of a tree, depth first and from left to right. -/
def nodes : Tree → List Tree
  | .leaf literal => [.leaf literal]
  | .application operator operands => .application operator operands :: nodesAll operands
  | .foreign value => [.foreign value]

/-- The nodes of trees side by side. -/
def nodesAll : List Tree → List Tree
  | [] => []
  | t :: ts => t.nodes ++ nodesAll ts

end

/-- A node is malformed when it is an application without operands or no node at all; what is
below it does not count. -/
def IsMalformed : Tree → Prop
  | .leaf _ => False
  | .application _ operands => operands = []
  | .foreign _ => True

/-- The failure that a malformed node is reported by. -/
inductive ReportedBy : Tree → Failure → Prop
  | noOperands (operator : String) :
      ReportedBy (.application operator [])
        { kind := .malformedTree, message := .text "Operator application has no operands.",
          details := [("operator", .text operator)] }
  | foreign (value : Json) :
      ReportedBy (.foreign value)
        { kind := .malformedTree,
          message := .text ("Unsupported tree node: " ++ value.typeWord) }

/-! ### Flaws -/

/-- What is wrong with a node, if it is malformed. -/
def flaw? : Tree → Option Malformed
  | .application operator [] => some (.noOperands operator)
  | .foreign value => some (.foreign value)
  | _ => none

theorem flaw?_eq_none_iff {t : Tree} : t.flaw? = none ↔ ¬ t.IsMalformed := by
  cases t with
  | leaf literal => simp [flaw?, IsMalformed]
  | application operator operands => cases operands <;> simp [flaw?, IsMalformed]
  | foreign value => simp [flaw?, IsMalformed]

/-- A malformed node is reported by the failure of its flaw. -/
theorem reportedBy_iff {t : Tree} {f : Failure} :
    t.ReportedBy f ↔ ∃ m, t.flaw? = some m ∧ Failure.ofMalformed m = f := by
  constructor
  · rintro (operator | value)
    · exact ⟨.noOperands operator, rfl, rfl⟩
    · exact ⟨.foreign value, rfl, rfl⟩
  · rintro ⟨m, hflaw, rfl⟩
    cases t with
    | leaf literal => cases hflaw
    | application operator operands =>
        cases operands with
        | nil =>
            cases hflaw
            exact .noOperands operator
        | cons t ts => cases hflaw
    | foreign value =>
        cases hflaw
        exact .foreign value

/-! ### Where the evaluator is stopped -/

/-- A computation is stopped by the first flaw among nodes, and by nothing else. -/
def StopsAt (x : Except Malformed Value) (us : List Tree) : Prop :=
  ∀ m, x = .error m ↔ us.findSome? flaw? = some m

/-- A computation that goes on after another one is stopped by the first flaw among the nodes of
both, whatever value the first one hands over. -/
theorem StopsAt.bind {x : Except Malformed Value} {next : Value → Except Malformed Value}
    {us vs : List Tree} (hx : StopsAt x us) (hnext : ∀ v, StopsAt (next v) vs) :
    StopsAt (x >>= next) (us ++ vs) := by
  intro m
  rw [List.findSome?_append]
  cases x with
  | error k =>
      rw [(hx k).mp rfl, Option.some_or]
      exact ⟨fun h => by cases h; rfl, fun h => by cases h; rfl⟩
  | ok v =>
      have hnone : us.findSome? flaw? = none := by
        cases hflaw : us.findSome? flaw? with
        | none => rfl
        | some k => exact absurd ((hx k).mpr hflaw) (by simp)
      rw [hnone, Option.none_or]
      exact hnext v m

/-- Further operands are evaluated up to the first flaw, also when the value held is an error. -/
theorem stopsAt_evaluateRest {operator : String} {ts : List Tree}
    (h : ∀ t ∈ ts, StopsAt t.evaluate t.nodes) (held : Value) :
    StopsAt (evaluateRest operator held ts) (nodesAll ts) := by
  induction ts generalizing held with
  | nil => simp [StopsAt, nodesAll]
  | cons t ts ih =>
      rw [List.forall_mem_cons] at h
      rw [evaluateRest, nodesAll]
      exact h.1.bind fun v => ih h.2 (held.combine operator v)

/-- **The evaluator is stopped by the first flaw** among the nodes of a tree. -/
theorem stopsAt_evaluate (t : Tree) : StopsAt t.evaluate t.nodes := by
  induction t using inductionOn with
  | leaf literal => simp [StopsAt, nodes, flaw?]
  | application operator operands ih =>
      cases operands with
      | nil => simp [StopsAt, evaluate, nodes, nodesAll, flaw?]
      | cons t ts =>
          rw [List.forall_mem_cons] at ih
          obtain ⟨ht, hts⟩ := ih
          -- the root has operands, so the first flaw is one below it
          have hroot : ∀ us, (application operator (t :: ts) :: us).findSome? flaw? =
              us.findSome? flaw? := fun us => rfl
          intro m
          rw [nodes, hroot, nodesAll, evaluate]
          exact ht.bind (fun v => stopsAt_evaluateRest hts v) m
  | foreign value => simp [StopsAt, evaluate, nodes, flaw?]

/-! ### What is reported -/

/-- What stops at a flaw fails exactly when there is one. -/
theorem StopsAt.exists_error_iff {x : Except Malformed Value} {us : List Tree}
    (h : StopsAt x us) : (∃ m, x = .error m) ↔ ∃ u ∈ us, u.IsMalformed := by
  have hnone : us.findSome? flaw? = none ↔ ∀ u ∈ us, ¬ u.IsMalformed := by
    simp only [List.findSome?_eq_none_iff, flaw?_eq_none_iff]
  calc (∃ m, x = .error m)
      ↔ ∃ m, us.findSome? flaw? = some m := exists_congr h
    _ ↔ us.findSome? flaw? ≠ none := Option.ne_none_iff_exists'.symm
    _ ↔ ∃ u ∈ us, u.IsMalformed := by
        rw [Ne, hnone]
        push Not
        rfl

/-- The first flaw is that of the first malformed node. -/
theorem exists_flaw_iff {us : List Tree} {f : Failure} :
    (∃ m, us.findSome? flaw? = some m ∧ Failure.ofMalformed m = f) ↔
      ∃ before node after, us = before ++ node :: after ∧ (∀ u ∈ before, ¬ u.IsMalformed) ∧
        node.ReportedBy f := by
  simp only [List.findSome?_eq_some_iff, flaw?_eq_none_iff, reportedBy_iff]
  constructor
  · rintro ⟨m, ⟨before, node, after, hus, hnode, hbefore⟩, hf⟩
    exact ⟨before, node, after, hus, hbefore, m, hnode, hf⟩
  · rintro ⟨before, node, after, hus, hbefore, m, hnode, hf⟩
    exact ⟨m, ⟨before, node, after, hus, hnode, hbefore⟩, hf⟩

/-- **The first malformed node is reported**, whatever the values around it are. The evaluator
fails exactly when there is a malformed node at any depth; it fails as the first one in the order
of `nodes` is reported; and without one it has a value, and no operand is refused on the way. -/
theorem first_malformed_node_is_reported (t : Tree) :
    ((∃ m, t.evaluate = .error m) ↔ ∃ node ∈ t.nodes, node.IsMalformed) ∧
      (∀ f, (∃ m, t.evaluate = .error m ∧ Failure.ofMalformed m = f) ↔
        ∃ before node after, t.nodes = before ++ node :: after ∧
          (∀ u ∈ before, ¬ u.IsMalformed) ∧ node.ReportedBy f) ∧
      ((∀ node ∈ t.nodes, ¬ node.IsMalformed) →
        ∃ v, t.evaluate = .ok v ∧ t.evaluateChecked = .ok (.value v)) := by
  have hstops := stopsAt_evaluate t
  refine ⟨hstops.exists_error_iff, ?_, ?_⟩
  · intro f
    rw [← exists_flaw_iff]
    exact exists_congr fun m => and_congr_left' (hstops m)
  · intro hnone
    cases hevaluate : t.evaluate with
    | error m =>
        obtain ⟨node, hnode, hmalformed⟩ := hstops.exists_error_iff.mp ⟨m, hevaluate⟩
        exact absurd hmalformed (hnone node hnode)
    | ok v => exact ⟨v, rfl, by rw [evaluateChecked_eq, hevaluate, answered]⟩

/-- An operand is looked at behind an error value and behind a division by zero. -/
example :
    (application "/" [.leaf "x", .leaf "0", .application "+" [], .foreign .null]).evaluate =
      .error (.noOperands "+") := by rfl

end PrefixCalc.Tree
