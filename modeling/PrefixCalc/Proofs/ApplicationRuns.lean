import PrefixCalc.Proofs.Growth

/-!
# Runs of Applications

A run holds a value and applies operators to it, one step after another, each with an operand that
may be no result value at all. A step does one of three things: it goes on with a number, it keeps
an error whatever the operand is, or it is refused, when a number should be combined with what is
no result. A refused step leaves the value that is held as it was.

`Operand.Transition` says all that one step does, in terms of the value held before it. The rest is
the run: the value before each step is the one behind the steps before it, so an error is kept to
the end, the first error is made by one step that can be blamed for it, and the refused steps can
be left out.

A refusal names the number and the operand in its message, which cannot be written when an integer
in one of them has too many digits. `FailsOn` follows the integers through the text of a value.

## Main results

* `Json.failsOn_shown`: when a value cannot be shown.
* `Operand.transition_runStep`: what a step does.
* `Operand.runSteps_of_heldAfter_error`: an error is kept.
* `Operand.heldAfter_accepted`: refused steps change nothing.
* `Operand.runs_keep_the_first_error`: what holds of runs of any length.
-/

namespace PrefixCalc

/-! ### Integers in a text -/

/-- A text that is made of integers, among other things, fails exactly when one of them has too
many digits. -/
def FailsOn {α : Type} (x : Except Unwritable α) (ns : List Int) : Prop :=
  ∀ u, x = .error u ↔ (∃ n ∈ ns, Decimal.maxDigits < Decimal.digitCount n) ∧ u = .tooManyDigits

theorem FailsOn.ok {α : Type} (a : α) : FailsOn (.ok a) [] := by
  simp [FailsOn]

theorem FailsOn.write (n : Int) : FailsOn (Decimal.write n) [n] := by
  intro u
  simp only [Decimal.write_eq_error_iff, List.mem_singleton, exists_eq_left]

/-- One text behind another fails on the integers of both. -/
theorem FailsOn.bind {α β : Type} {x : Except Unwritable α} {next : α → Except Unwritable β}
    {ms ns : List Int} (hx : FailsOn x ms) (hnext : ∀ a, FailsOn (next a) ns) :
    FailsOn (x >>= next) (ms ++ ns) := by
  have hlater : (∃ n ∈ ms ++ ns, Decimal.maxDigits < Decimal.digitCount n) ↔
      (∃ n ∈ ms, Decimal.maxDigits < Decimal.digitCount n) ∨
        ∃ n ∈ ns, Decimal.maxDigits < Decimal.digitCount n := by
    simp only [List.mem_append, or_and_right, exists_or]
  intro u
  rw [hlater]
  cases x with
  | error v =>
      obtain ⟨hlong, rfl⟩ := (hx v).mp rfl
      refine ⟨fun h => ?_, ?_⟩
      · cases h
        exact ⟨.inl hlong, rfl⟩
      · rintro ⟨-, rfl⟩
        rfl
  | ok a =>
      have hnone : ¬ ∃ m ∈ ms, Decimal.maxDigits < Decimal.digitCount m := fun hlong =>
        absurd ((hx _).mpr ⟨hlong, rfl⟩) (by simp)
      rw [or_iff_right hnone]
      exact hnext a u

theorem FailsOn.map {α β : Type} {x : Except Unwritable α} {ns : List Int} (hx : FailsOn x ns)
    (f : α → β) : FailsOn (do return f (← x)) ns := by
  rw [← List.append_nil ns]
  exact hx.bind fun a => .ok (f a)

namespace Json

mutual

/-- The integers in a value, at any depth. -/
def integers : Json → List Int
  | .int n => [n]
  | .array items => itemIntegers items
  | .object members => memberIntegers members
  | .brokenObject members => brokenMemberIntegers members
  | _ => []

/-- The integers in the items of an array. -/
def itemIntegers : List Json → List Int
  | [] => []
  | j :: js => j.integers ++ itemIntegers js

/-- The integers in the members of an object. -/
def memberIntegers : List (String × Json) → List Int
  | [] => []
  | (_, j) :: ms => j.integers ++ memberIntegers ms

/-- The integers in the members of an object with a broken name. -/
def brokenMemberIntegers : List (List Nat × Json) → List Int
  | [] => []
  | (_, j) :: ms => j.integers ++ brokenMemberIntegers ms

end

theorem memberIntegers_eq (members : List (String × Json)) :
    memberIntegers members = brokenMemberIntegers (pointed members) := by
  induction members with
  | nil => rfl
  | cons m members ih =>
      rw [memberIntegers, ih, pointed_cons, brokenMemberIntegers]

theorem failsOn_shownItems {items : List Json} (h : ∀ j ∈ items, FailsOn j.shown j.integers) :
    FailsOn (shownItems items) (itemIntegers items) := by
  induction items with
  | nil => exact .ok []
  | cons j items ih =>
      rw [List.forall_mem_cons] at h
      rw [shownItems, itemIntegers]
      exact h.1.bind fun text => (ih h.2).map fun texts => text :: texts

theorem failsOn_shownBrokenMembers {members : List (List Nat × Json)}
    (h : ∀ m ∈ members, FailsOn m.2.shown m.2.integers) :
    FailsOn (shownBrokenMembers members) (brokenMemberIntegers members) := by
  induction members with
  | nil => exact .ok []
  | cons m members ih =>
      obtain ⟨name, j⟩ := m
      rw [List.forall_mem_cons] at h
      rw [shownBrokenMembers, brokenMemberIntegers]
      exact h.1.bind fun text => (ih h.2).map fun texts =>
        (Text.quotedPoints name ++ ": " ++ text) :: texts

theorem failsOn_shownMembers {members : List (String × Json)}
    (h : ∀ m ∈ members, FailsOn m.2.shown m.2.integers) :
    FailsOn (shownMembers members) (memberIntegers members) := by
  rw [shownMembers_eq, memberIntegers_eq]
  exact failsOn_shownBrokenMembers (List.forall_mem_map.mpr h)

/-- **A value can be shown unless it holds an integer with too many digits**, at any depth. -/
theorem failsOn_shown (j : Json) : FailsOn j.shown j.integers := by
  refine @Json.rec (fun j => FailsOn j.shown j.integers)
    (fun items => ∀ j ∈ items, FailsOn j.shown j.integers)
    (fun members => ∀ m ∈ members, FailsOn m.2.shown m.2.integers)
    (fun members => ∀ m ∈ members, FailsOn m.2.shown m.2.integers)
    (fun m => FailsOn m.2.shown m.2.integers) (fun m => FailsOn m.2.shown m.2.integers) ?null ?bool
    ?int ?real ?text ?broken ?array ?object ?brokenObject ?noItems ?items ?noMembers ?members
    ?noBrokenMembers ?brokenMembers ?member ?brokenMember j
  case null => exact .ok "None"
  case bool => exact fun b => by cases b <;> exact .ok _
  case int => exact fun n => .write n
  case real => exact fun x => .ok x.text
  case text => exact fun s => .ok (Text.quoted s)
  case broken => exact fun points => .ok (Text.quotedPoints points)
  case array =>
    intro items ih
    rw [shown, integers]
    exact (failsOn_shownItems ih).map _
  case object =>
    intro members ih
    rw [shown, integers]
    exact (failsOn_shownMembers ih).map _
  case brokenObject =>
    intro members ih
    rw [shown, integers]
    exact (failsOn_shownBrokenMembers ih).map _
  case noItems => exact List.forall_mem_nil _
  case items => exact fun j items hj hitems => List.forall_mem_cons.mpr ⟨hj, hitems⟩
  case noMembers => exact List.forall_mem_nil _
  case members => exact fun m members hm hmembers => List.forall_mem_cons.mpr ⟨hm, hmembers⟩
  case noBrokenMembers => exact List.forall_mem_nil _
  case brokenMembers => exact fun m members hm hmembers => List.forall_mem_cons.mpr ⟨hm, hmembers⟩
  case member => exact fun name j hj => hj
  case brokenMember => exact fun name j hj => hj

end Json

namespace Operand

/-- The integers in an operand. -/
def integers : Operand → List Int
  | .value (.number n) => [n]
  | .value (.error _) => []
  | .foreign j => j.integers

theorem failsOn_shown (y : Operand) : FailsOn y.shown y.integers := by
  cases y with
  | value v =>
      cases v with
      | number n => exact (FailsOn.write n).map _
      | error k => exact .ok _
  | foreign j => exact j.failsOn_shown

/-- The message of a refusal fails on the integers of both operands. -/
theorem failsOn_message (operator : String) (x y : Operand) :
    FailsOn (OperandError.cannotApply operator x y).message (x.integers ++ y.integers) :=
  x.failsOn_shown.bind fun _ => y.failsOn_shown.map _

/-! ### Steps -/

/-- What is to blame for the error that a number and an operand make: the operand, if it is an
error, or else the operator, if it is unknown, or else a divisor that is zero. -/
inductive Blames (operator : String) : Operand → ErrorKind → Prop
  | operand (k : ErrorKind) : Blames operator (.value (.error k)) k
  | operator (h : operator ∉ ["+", "-", "*", "/"]) (n : Int) :
      Blames operator (.value (.number n)) .invalidOperator
  | divisor (h : operator = "/") : Blames operator (.value (.number 0)) .divisionByZero

/-- All that a step does, when a value is held before it: what is held after it, and the refusal if
there is one. -/
structure Transition (x : Value) (operator : String) (y : Operand)
    (after : Operand × Option OperandError) : Prop where
  holds : ∃ v, after.1 = .value v
  absorbs : ∀ k, x = .error k → after = (.value (.error k), none)
  refuses : after.2 ≠ none ↔ (∃ n, x = .number n) ∧ ∃ j, y = .foreign j
  keeps : ∀ e, after.2 = some e → after.1 = .value x ∧ e = .cannotApply operator (.value x) y
  message : ∀ e, after.2 = some e → ∀ u, e.message = .error u ↔
    (∃ n ∈ (Operand.value x).integers ++ y.integers,
      Decimal.maxDigits < Decimal.digitCount n) ∧ u = .tooManyDigits
  blames : ∀ n k, x = .number n → (after.1 = .value (.error k) ↔ Blames operator y k)

/-- Two numbers make an error when something is to blame. -/
theorem calculate_eq_error_iff {operator : String} {m n : Int} {k : ErrorKind} :
    Value.calculate operator m n = .error k ↔ Blames operator (.value (.number n)) k := by
  unfold Value.calculate
  constructor
  · intro h
    split at h
    · next hnone =>
        cases h
        exact .operator (Value.operation?_eq_none_iff.mp hnone) n
    · split_ifs at h with hzero
      cases h
      obtain ⟨hdiv, rfl⟩ := hzero
      exact .divisor hdiv
  · rintro (_ | ⟨hunknown, _⟩ | hdiv)
    · rw [Value.operation?_eq_none_iff.mpr hunknown]
    · rw [hdiv]
      rfl

theorem runStep_value (x : Value) (operator : String) (y : Value) :
    (value x).runStep operator (.value y) = (.value (x.combine operator y), none) := rfl

theorem runStep_error (k : ErrorKind) (operator : String) (y : Operand) :
    (value (.error k)).runStep operator y = (.value (.error k), none) := by
  cases y <;> rfl

theorem runStep_foreign (n : Int) (operator : String) (j : Json) :
    (value (.number n)).runStep operator (.foreign j) =
      (.value (.number n), some (.cannotApply operator (.value (.number n)) (.foreign j))) := rfl

/-- **A step is a transition.** -/
theorem transition_runStep (x : Value) (operator : String) (y : Operand) :
    Transition x operator y ((value x).runStep operator y) := by
  cases x with
  | error k =>
      rw [runStep_error]
      exact
        { holds := ⟨_, rfl⟩
          absorbs := by rintro _ ⟨⟩; rfl
          refuses := by simp
          keeps := by simp
          message := by simp
          blames := by simp }
  | number m =>
      cases y with
      | foreign j =>
          rw [runStep_foreign]
          exact
            { holds := ⟨_, rfl⟩
              absorbs := by simp
              refuses := by simp
              keeps := by rintro _ ⟨⟩; exact ⟨rfl, rfl⟩
              message := by
                rintro _ ⟨⟩
                exact failsOn_message operator _ _
              blames := by
                refine fun n k _ => ⟨fun h => ?_, fun h => ?_⟩
                · cases h
                · cases h }
      | value y =>
          rw [runStep_value]
          refine
            { holds := ⟨_, rfl⟩
              absorbs := by simp
              refuses := by simp
              keeps := by simp
              message := by simp
              blames := fun _ k _ => ?_ }
          rw [value.injEq]
          cases y with
          | error j =>
              rw [Value.combine_error_right, Value.error.injEq]
              refine ⟨fun h => h ▸ .operand j, fun h => ?_⟩
              cases h
              rfl
          | number n => rw [Value.combine_number, calculate_eq_error_iff]

/-! ### Runs -/

/-- What is held behind steps. -/
def heldAfter (held : Operand) (steps : List (String × Operand)) : Operand :=
  steps.foldl (fun held step => (held.runStep step.1 step.2).1) held

/-- The steps of a run without those that are refused. -/
def accepted (held : Operand) (steps : List (String × Operand)) : List (String × Operand) :=
  ((steps.zip (held.runSteps steps)).filter fun s => s.2.2.isNone).map Prod.fst

theorem heldAfter_append (held : Operand) (before later : List (String × Operand)) :
    heldAfter held (before ++ later) = heldAfter (heldAfter held before) later :=
  List.foldl_append

theorem heldAfter_cons (held : Operand) (operator : String) (y : Operand)
    (steps : List (String × Operand)) :
    heldAfter held ((operator, y) :: steps) = heldAfter (held.runStep operator y).1 steps := rfl

/-- A run goes on from what is held. -/
theorem runSteps_append (held : Operand) (before later : List (String × Operand)) :
    held.runSteps (before ++ later) =
      held.runSteps before ++ (heldAfter held before).runSteps later := by
  induction before generalizing held with
  | nil => rfl
  | cons step before ih =>
      obtain ⟨operator, y⟩ := step
      rw [List.cons_append, runSteps, runSteps, heldAfter_cons, ih, List.cons_append]

theorem length_runSteps (held : Operand) (steps : List (String × Operand)) :
    (held.runSteps steps).length = steps.length := by
  induction steps generalizing held with
  | nil => rfl
  | cons step steps ih =>
      obtain ⟨operator, y⟩ := step
      rw [runSteps, List.length_cons, ih, List.length_cons]

/-- **A result value is held behind any steps.** -/
theorem exists_heldAfter_eq (x : Value) (steps : List (String × Operand)) :
    ∃ v, heldAfter (.value x) steps = .value v := by
  induction steps generalizing x with
  | nil => exact ⟨x, rfl⟩
  | cons step steps ih =>
      obtain ⟨operator, y⟩ := step
      obtain ⟨v, hv⟩ := (transition_runStep x operator y).holds
      rw [heldAfter_cons, hv]
      exact ih v

/-- **An error is kept**, and nothing is refused behind it. -/
theorem runSteps_error (k : ErrorKind) (steps : List (String × Operand)) :
    (value (.error k)).runSteps steps = steps.map fun _ => (.value (.error k), none) := by
  induction steps with
  | nil => rfl
  | cons step steps ih =>
      obtain ⟨operator, y⟩ := step
      simp only [runSteps, runStep_error, ih, List.map_cons]

/-- **An error that is held was held first, or one step is to blame for it**, before which there
was a number. -/
theorem exists_blames_of_heldAfter {x : Value} {steps : List (String × Operand)} {k : ErrorKind}
    (h : heldAfter (.value x) steps = .value (.error k)) :
    x = .error k ∨ ∃ before operator y later n, steps = before ++ (operator, y) :: later ∧
      heldAfter (.value x) before = .value (.number n) ∧ Blames operator y k := by
  induction steps generalizing x with
  | nil =>
      cases h
      exact .inl rfl
  | cons step steps ih =>
      obtain ⟨operator, y⟩ := step
      have hstep := transition_runStep x operator y
      obtain ⟨v, hv⟩ := hstep.holds
      rw [heldAfter_cons, hv] at h
      rcases ih h with rfl | ⟨before, operator', y', later, n, rfl, hn, hblames⟩
      · cases x with
        | error j =>
            rw [hstep.absorbs j rfl] at hv
            cases hv
            exact .inl rfl
        | number n =>
            exact .inr ⟨[], operator, y, steps, n, rfl, rfl, (hstep.blames n k rfl).mp hv⟩
      · exact .inr ⟨(operator, y) :: before, operator', y', later, n, rfl,
          by rw [heldAfter_cons, hv, hn], hblames⟩

/-- A refused step leaves what is held as it is. -/
theorem runStep_eq_of_refused {held : Operand} {operator : String} {y : Operand}
    {e : OperandError} (h : (held.runStep operator y).2 = some e) :
    (held.runStep operator y).1 = held := by
  unfold runStep at h ⊢
  split at h
  · cases h
  · rfl

/-- **Refused steps change nothing**: a run without them ends in the same. -/
theorem heldAfter_accepted (held : Operand) (steps : List (String × Operand)) :
    heldAfter held (accepted held steps) = heldAfter held steps := by
  induction steps generalizing held with
  | nil => rfl
  | cons step steps ih =>
      obtain ⟨operator, y⟩ := step
      rw [accepted, runSteps, List.zip_cons_cons, heldAfter_cons]
      cases hrefused : (held.runStep operator y).2 with
      | none =>
          rw [List.filter_cons_of_pos (by simp [hrefused]), List.map_cons, heldAfter_cons]
          exact ih _
      | some e =>
          have hkept := runStep_eq_of_refused hrefused
          rw [List.filter_cons_of_neg (by simp [hrefused]), hkept]
          exact ih held

/-- **What holds of runs of any length**, from any value, with any operators and operands.

The value held before each step is that behind the steps before it, and the step is a transition:
so a result value is held after it, it is refused exactly when a number is held and the operand is
no result, whatever the operator is, and then the message says so unless it would show an integer
with too many digits. An error that is held at some time is held ever after, and no step behind is
refused. The error that a run ends in was there first, or was made by one step out of a number: it
is the operand, or else the operator is unknown, or else a divisor is zero. Without the steps that
are refused a run ends in the same value. -/
theorem runs_keep_the_first_error (x : Value) (steps : List (String × Operand)) :
    ((value x).runSteps steps).length = steps.length ∧
    (∀ before operator y later, steps = before ++ (operator, y) :: later →
      ∃ v after, heldAfter (.value x) before = .value v ∧
        ((value x).runSteps steps)[before.length]? = some after ∧
        heldAfter (.value x) (before ++ [(operator, y)]) = after.1 ∧
        Transition v operator y after) ∧
    (∀ before later k, steps = before ++ later →
      heldAfter (.value x) before = .value (.error k) →
      (value x).runSteps steps =
        (value x).runSteps before ++ later.map fun _ => (.value (.error k), none)) ∧
    (∀ k, heldAfter (.value x) steps = .value (.error k) →
      x = .error k ∨ ∃ before operator y later n, steps = before ++ (operator, y) :: later ∧
        heldAfter (.value x) before = .value (.number n) ∧ Blames operator y k) ∧
    heldAfter (.value x) (accepted (.value x) steps) = heldAfter (.value x) steps := by
  refine ⟨length_runSteps _ steps, ?_, ?_, fun k => exists_blames_of_heldAfter,
    heldAfter_accepted _ steps⟩
  · rintro before operator y later rfl
    obtain ⟨v, hv⟩ := exists_heldAfter_eq x before
    refine ⟨v, (value v).runStep operator y, hv, ?_, ?_, transition_runStep v operator y⟩
    · rw [runSteps_append, hv, runSteps,
        List.getElem?_append_right (Nat.le_of_eq (length_runSteps _ before)), length_runSteps,
        Nat.sub_self, List.getElem?_cons_zero]
    · rw [heldAfter_append, hv]
      rfl
  · rintro before later k rfl hk
    rw [runSteps_append, hk, runSteps_error]

/-- A sum, an operand that is refused although the operator is unknown, a division by zero, and
behind it an operand that is no result and one that is another error. -/
theorem runs_keep_the_first_error_of_five :
    let x : Value := .number 7
    let steps : List (String × Operand) :=
      [("+", .value (.number 1)), ("?", .foreign .null), ("/", .value (.number 0)),
        ("*", .foreign (.text "a")), ("-", .value (.error .invalidNumber))]
    heldAfter (.value x) steps = .value (.error .divisionByZero) ∧
      (∃ after, ((value x).runSteps steps)[1]? = some after ∧ after.2 ≠ none) ∧
      (value x).runSteps steps =
        (value x).runSteps (steps.take 3) ++
          (steps.drop 3).map (fun _ => (.value (.error .divisionByZero), none)) ∧
      (∃ before operator y later n, steps = before ++ (operator, y) :: later ∧
        heldAfter (.value x) before = .value (.number n) ∧
        Blames operator y .divisionByZero) ∧
      heldAfter (.value x) (accepted (.value x) steps) = .value (.error .divisionByZero) := by
  intro x steps
  obtain ⟨-, hsteps, hkept, hfirst, haccepted⟩ := runs_keep_the_first_error x steps
  have hlast : heldAfter (.value x) steps = .value (.error .divisionByZero) := rfl
  obtain ⟨v, after, hv, hafter, -, htransition⟩ :=
    hsteps [("+", .value (.number 1))] "?" (.foreign .null) _ rfl
  have height : Value.number 8 = v := by
    rw [← value.injEq, ← hv]
    rfl
  refine ⟨hlast, ⟨after, hafter, ?_⟩, hkept (steps.take 3) (steps.drop 3) _ rfl rfl,
    (hfirst _ hlast).resolve_left (by simp [x]), haccepted.trans hlast⟩
  exact htransition.refuses.mpr ⟨⟨8, height.symm⟩, .null, rfl⟩

end Operand

end PrefixCalc
