import PrefixCalc.Proofs.ConstantFolding
import PrefixCalc.Proofs.Descent
import PrefixCalc.Proofs.Grammar

/-!
# Nesting Is Bounded

The descent refuses to open an application at the nesting limit. This module says what that is
worth at every moment of a run, on lines that are read and on lines that are refused.

All that a call comes to is compared with where it was made. The position moves on and stays in the
line, and the counter does not fall below its value at the call or rise above the limit
(`Bounded`). At a call and at the return of an operand the counter has moreover risen by as much as
there are more open parentheses than at the call (`Level`); only behind the parenthesis that closes
an application the counter is late by one, until the operand returns. Both relations are
transitive, so each rule of the descent has to say it of its own step.

The number of applications that are begun and not finished is a sum over the events so far
(`underConstruction`), and its greatest value over a run (`peak`) is bounded by the room that the
counter leaves.

## Main results

* `Reads.keeps`, `Fails.keeps`: what a call comes to.
* `Reads.peak_le`, `Fails.peak_le`: how many applications are under construction.
* `Reads.depth_tree_le`: how deep the trees are that a call returns.
* `nesting_stays_bounded`: the bounds for every line.
-/

namespace PrefixCalc

open PrefixCalc.Tree (maxNesting)

/-- A position in a tree is no longer than the tree is deep. -/
theorem Tree.length_le_depth {t u : Tree} {p : Tree.Position} (h : t.subtree? p = some u) :
    p.length ≤ t.depth := by
  induction p generalizing t with
  | nil => exact Nat.zero_le _
  | cons i p ih =>
      cases t with
      | application operator operands =>
          rw [subtree?_application, Option.bind_eq_some_iff] at h
          obtain ⟨operand, hoperand, h⟩ := h
          have hdepth : operand.depth ≤ depthAll operands :=
            depthAll_le_iff.mp (Nat.le_refl _) operand (List.mem_of_getElem? hoperand)
          rw [depth_application, List.length_cons]
          exact Nat.succ_le_succ (Nat.le_trans (ih h) hdepth)
      | leaf literal => cases h
      | foreign value => cases h

namespace Descent

variable {ls : List Lexeme} {routine : Routine} {c c' c'' : Cursor} {e : Event} {es : List Event}
  {ts : List Tree} {k : Complaint}

/-! ### What a call comes to -/

/-- From one place of a run to a later one the counter stays in its bounds and the position in the
line. -/
structure Bounded (ls : List Lexeme) (c c' : Cursor) : Prop where
  depth_le : c.depth ≤ c'.depth
  limit : c.depth ≤ maxNesting → c'.depth ≤ maxNesting
  position_le : c.position ≤ c'.position
  inside : c.position ≤ ls.length → c'.position ≤ ls.length

/-- And the counter rises by as much as there are more open parentheses. -/
structure Level (ls : List Lexeme) (c c' : Cursor) : Prop extends Bounded ls c c' where
  level : c'.depth - c.depth = surplus (ls.take c'.position) - surplus (ls.take c.position)

theorem Bounded.trans (h : Bounded ls c c') (h' : Bounded ls c' c'') : Bounded ls c c'' where
  depth_le := h.depth_le.trans h'.depth_le
  limit := fun hc => h'.limit (h.limit hc)
  position_le := h.position_le.trans h'.position_le
  inside := fun hc => h'.inside (h.inside hc)

namespace Level

theorem refl (ls : List Lexeme) (c : Cursor) : Level ls c c where
  depth_le := le_refl _
  limit := id
  position_le := le_refl _
  inside := id
  level := by omega

theorem trans (h : Level ls c c') (h' : Level ls c' c'') : Level ls c c'' where
  toBounded := h.toBounded.trans h'.toBounded
  level := by
    have hlevel := h.level
    have hlevel' := h'.level
    omega

theorem next {s : String} (h : ls[c.position]? = some (.atom s)) : Level ls c c.next where
  depth_le := le_refl _
  limit := id
  position_le := Nat.le_succ _
  inside := (Consumes.single h).le_length
  level := by
    have hsurplus := (Consumes.single h).surplus_take
    simp only [surplus_cons, rise_atom, surplus_nil] at hsurplus
    rw [Cursor.position_next, Cursor.depth_next, hsurplus]
    omega

theorem enter (h : ls[c.position]? = some .opening) (hroom : c.depth < maxNesting) :
    Level ls c c.enter where
  depth_le := by
    rw [Cursor.depth_enter]
    omega
  limit := fun _ => hroom
  position_le := Nat.le_succ _
  inside := (Consumes.single h).le_length
  level := by
    have hsurplus := (Consumes.single h).surplus_take
    simp only [surplus_cons, rise_opening, surplus_nil] at hsurplus
    rw [Cursor.position_enter, Cursor.depth_enter, hsurplus]
    omega

end Level

/-- A call that returns. -/
theorem Reads.bounded (h : Reads ls routine c es ts c') : Bounded ls c c' where
  depth_le := h.depth.ge
  limit := fun hc => by rw [h.depth]; exact hc
  position_le := by
    rw [h.consumes.position]
    exact Nat.le_add_right _ _
  inside := h.consumes.le_length

/-- A call that consumes as many opening as closing parentheses. -/
theorem Reads.level (h : Reads ls routine c es ts c')
    (hwritten : surplus (routine.written ts) = 0) : Level ls c c' where
  toBounded := h.bounded
  level := by
    rw [h.consumes.surplus_take, h.depth, hwritten]
    omega

theorem surplus_yieldAll (ts : List Tree) : surplus (Tree.yieldAll ts) = 0 :=
  surplus_yieldAll_of_forall fun t _ => surplus_yield t

/-- What is asked of an event in a call. -/
def Keeps (ls : List Lexeme) (c : Cursor) : Event → Prop
  | .back (.application _) e => Bounded ls c e
  | .call _ e => Level ls c e
  | .back _ e => Level ls c e

theorem Keeps.bounded (h : Keeps ls c e) : Bounded ls c e.cursor := by
  cases e with
  | call routine e => exact Level.toBounded h
  | back routine e =>
      cases routine with
      | application closed => exact h
      | operand => exact Level.toBounded h
      | operands => exact Level.toBounded h

/-- What is so from a later place on is so from an earlier one. -/
theorem Keeps.behind (h : Keeps ls c' e) (hc : Level ls c c') : Keeps ls c e := by
  cases e with
  | call routine e => exact hc.trans h
  | back routine e =>
      cases routine with
      | application closed => exact hc.toBounded.trans h
      | operand => exact hc.trans h
      | operands => exact hc.trans h

theorem forall_keeps_behind (h : ∀ e ∈ es, Keeps ls c' e) (hc : Level ls c c') :
    ∀ e ∈ es, Keeps ls c e :=
  fun e he => (h e he).behind hc

/-- A call keeps what is kept from it on. -/
theorem forall_keeps_call (h : ∀ e ∈ es, Keeps ls c e) :
    ∀ e ∈ .call routine c :: es, Keeps ls c e :=
  List.forall_mem_cons.mpr ⟨Level.refl ls c, h⟩

/-- And so does its return. -/
theorem forall_keeps_back (h : ∀ e ∈ es, Keeps ls c e) (hback : Keeps ls c (.back routine c')) :
    ∀ e ∈ .call routine c :: es ++ [.back routine c'], Keeps ls c e :=
  List.forall_mem_append.mpr ⟨forall_keeps_call h, List.forall_mem_singleton.mpr hback⟩

/-- **In a call that returns** the counter and the position keep their bounds. -/
theorem Reads.keeps (h : Reads ls routine c es ts c') : ∀ e ∈ es, Keeps ls c e := by
  induction h with
  | leaf h => simp [Keeps, Level.refl, Level.next h]
  | nested h hroom inside ih =>
      have hback := (Reads.nested h hroom inside).level (surplus_yieldAll _)
      exact forall_keeps_back (forall_keeps_behind ih (.enter h hroom)) hback
  | stop _ => simp
  | more first rest ihfirst ihrest =>
      have hrest := forall_keeps_behind ihrest (first.level (surplus_yieldAll _))
      exact List.forall_mem_append.mpr ⟨ihfirst, hrest⟩
  | unclosed h inside hne ih =>
      have hback := (Reads.unclosed h inside hne).bounded
      exact forall_keeps_back (forall_keeps_behind ih (.next h.1)) hback
  | closed h inside hne hnext ih =>
      have hback := (Reads.closed h inside hne hnext).bounded
      exact forall_keeps_back (forall_keeps_behind ih (.next h.1)) hback

/-- Where a call complains, the counter is level. -/
theorem Fails.level (h : Fails ls routine c es k c') : Level ls c c' := by
  induction h with
  | tooDeep _ _ => exact .refl ls _
  | nested h hroom _ ih => exact (Level.enter h hroom).trans ih
  | first _ ih => exact ih
  | rest first _ ih => exact (first.level (surplus_yieldAll _)).trans ih
  | operator _ => exact .refl ls _
  | operands h _ ih => exact (Level.next h.1).trans ih
  | expression h inside => exact (Level.next h.1).trans (inside.level (surplus_yieldAll _))
  | closing h inside _ _ => exact (Level.next h.1).trans (inside.level (surplus_yieldAll _))

/-- **In a call that ends in a complaint** they do as well. -/
theorem Fails.keeps (h : Fails ls routine c es k c') : ∀ e ∈ es, Keeps ls c e := by
  induction h with
  | tooDeep _ _ => exact forall_keeps_call (by simp)
  | nested h hroom _ ih => exact forall_keeps_call (forall_keeps_behind ih (.enter h hroom))
  | first _ ih => exact ih
  | rest first _ ih =>
      have hrest := forall_keeps_behind ih (first.level (surplus_yieldAll _))
      exact List.forall_mem_append.mpr ⟨first.keeps, hrest⟩
  | operator _ => exact forall_keeps_call (by simp)
  | operands h _ ih => exact forall_keeps_call (forall_keeps_behind ih (.next h.1))
  | expression h inside => exact forall_keeps_call (forall_keeps_behind inside.keeps (.next h.1))
  | closing h inside _ _ => exact forall_keeps_call (forall_keeps_behind inside.keeps (.next h.1))

/-! ### Applications under construction -/

/-- A routine that makes an application itself, and how many. -/
def Routine.builds : Routine → Int
  | .application _ => 1
  | _ => 0

/-- What an event adds to the number of applications that are under construction. -/
def Event.rise : Event → Int
  | .call routine _ => routine.builds
  | .back routine _ => -routine.builds

/-- How many applications have been begun and not been finished. -/
def underConstruction (es : List Event) : Int :=
  (es.map Event.rise).sum

/-- The greatest number of applications under construction, from no event to all of them. -/
def peak : List Event → Int
  | [] => 0
  | e :: es => max 0 (e.rise + peak es)

theorem Routine.builds_nonneg (routine : Routine) : 0 ≤ routine.builds := by
  cases routine <;> simp [builds]

@[simp] theorem underConstruction_nil : underConstruction [] = 0 := rfl

@[simp] theorem underConstruction_cons (e : Event) (es : List Event) :
    underConstruction (e :: es) = e.rise + underConstruction es := by
  simp [underConstruction]

@[simp] theorem underConstruction_append (es es' : List Event) :
    underConstruction (es ++ es') = underConstruction es + underConstruction es' := by
  simp [underConstruction]

theorem peak_nonneg (es : List Event) : 0 ≤ peak es := by
  cases es with
  | nil => exact le_refl 0
  | cons e es => exact le_max_left 0 _

theorem peak_append (es es' : List Event) :
    peak (es ++ es') = max (peak es) (underConstruction es + peak es') := by
  induction es with
  | nil => simp [peak, peak_nonneg]
  | cons e es ih =>
      rw [List.cons_append, peak, ih, peak, underConstruction_cons]
      omega

/-- The peak is not passed at any moment. -/
theorem underConstruction_le_peak {es es' : List Event} (h : es' <+: es) :
    underConstruction es' ≤ peak es := by
  obtain ⟨more, rfl⟩ := h
  have hmore := peak_nonneg more
  rw [peak_append]
  omega

theorem peak_call (routine : Routine) (c : Cursor) (es : List Event) :
    peak (.call routine c :: es) = routine.builds + peak es := by
  have hbuilds := routine.builds_nonneg
  have hpeak := peak_nonneg es
  rw [peak, Event.rise]
  omega

theorem peak_back (es : List Event) (routine : Routine) (c : Cursor) :
    peak (es ++ [.back routine c]) = peak es := by
  have hbuilds := routine.builds_nonneg
  have hall := underConstruction_le_peak (List.prefix_refl es)
  rw [peak_append, peak, Event.rise, peak]
  omega

/-- A call that returns leaves no application unfinished. -/
theorem Reads.underConstruction_eq (h : Reads ls routine c es ts c') :
    underConstruction es = 0 := by
  induction h with
  | leaf _ => rfl
  | nested _ _ _ ih => simp [Event.rise, ih]
  | stop _ => rfl
  | more _ _ ihfirst ihrest => simp [ihfirst, ihrest]
  | unclosed _ _ _ ih => simp [Event.rise, ih]
  | closed _ _ _ _ ih => simp [Event.rise, ih]

/-- The room that the counter leaves at a place for applications that a routine has under
construction. -/
def Cursor.room (c : Cursor) (routine : Routine) : Int :=
  maxNesting - c.depth + routine.builds

/-- An application takes one place more than what is built in its operands. -/
theorem peak_application_le {closed : Bool} (h : peak es ≤ c.next.room .operands) :
    peak (.call (.application closed) c :: es) ≤ c.room (.application closed) := by
  rw [peak_call]
  simp only [Cursor.room, Routine.builds, Cursor.depth_next] at h ⊢
  omega

/-- An application around which a parenthesis is counted leaves one place less to its operands,
and takes it. -/
theorem peak_nested_le (h : peak es ≤ c.enter.room (.application true)) :
    peak (.call .operand c :: es) ≤ c.room .operand := by
  rw [peak_call]
  simp only [Cursor.room, Routine.builds, Cursor.depth_enter] at h ⊢
  omega

theorem Cursor.room_nonneg (hc : c.depth ≤ maxNesting) (routine : Routine) :
    0 ≤ c.room routine := by
  have hbuilds := routine.builds_nonneg
  rw [Cursor.room]
  omega

theorem Cursor.room_congr (h : c'.depth = c.depth) (routine : Routine) :
    c'.room routine = c.room routine := by
  rw [Cursor.room, Cursor.room, h]

/-- **In a call that returns**, the room that the counter leaves bounds the number of applications
under construction. -/
theorem Reads.peak_le (h : Reads ls routine c es ts c') (hc : c.depth ≤ maxNesting) :
    peak es ≤ c.room routine := by
  induction h with
  | leaf _ => exact Cursor.room_nonneg hc .operand
  | nested _ hroom _ ih =>
      rw [peak_back]
      exact peak_nested_le (ih hroom)
  | stop _ => exact Cursor.room_nonneg hc .operands
  | more first _ ihfirst ihrest =>
      have hrest := ihrest (first.depth.le.trans hc)
      rw [Cursor.room_congr first.depth] at hrest
      rw [peak_append, first.underConstruction_eq, zero_add]
      exact max_le (ihfirst hc) hrest
  | unclosed _ _ _ ih =>
      rw [peak_back]
      exact peak_application_le (ih hc)
  | closed _ _ _ _ ih =>
      rw [peak_back]
      exact peak_application_le (ih hc)

/-- **In a call that ends in a complaint** it does as well. -/
theorem Fails.peak_le (h : Fails ls routine c es k c') (hc : c.depth ≤ maxNesting) :
    peak es ≤ c.room routine := by
  induction h with
  | tooDeep _ _ => exact Cursor.room_nonneg hc .operand
  | nested _ hroom _ ih => exact peak_nested_le (ih hroom)
  | first _ ih => exact ih hc
  | rest first _ ih =>
      have hrest := ih (first.depth.le.trans hc)
      rw [Cursor.room_congr first.depth] at hrest
      rw [peak_append, first.underConstruction_eq, zero_add]
      exact max_le (first.peak_le hc) hrest
  | operator _ => exact peak_application_le (Cursor.room_nonneg hc .operands)
  | operands _ _ ih => exact peak_application_le (ih hc)
  | expression _ inside => exact peak_application_le (inside.peak_le hc)
  | closing _ inside _ _ => exact peak_application_le (inside.peak_le hc)

/-! ### Trees -/

/-- An application is one deeper than its operands. -/
theorem depth_application_le {closed : Bool} {operator : String} (hc : c.depth ≤ maxNesting)
    (h : ∀ t ∈ ts, t.depth ≤ c.next.room .operands) :
    (Tree.application operator ts).depth ≤ c.room (.application closed) := by
  simp only [Cursor.room, Routine.builds, Cursor.depth_next] at h ⊢
  have hall : Tree.depthAll ts ≤ (maxNesting - c.depth).toNat := by
    rw [Tree.depthAll_le_iff]
    intro t ht
    have := h t ht
    omega
  rw [Tree.depth_application]
  omega

/-- **The trees that a call returns** are no deeper than the room that the counter leaves. -/
theorem Reads.depth_tree_le (h : Reads ls routine c es ts c') (hc : c.depth ≤ maxNesting) :
    ∀ t ∈ ts, t.depth ≤ c.room routine := by
  induction h with
  | leaf _ => simpa using Cursor.room_nonneg hc .operand
  | nested _ hroom _ ih =>
      intro t ht
      have hinside := ih hroom t ht
      simp only [Cursor.room, Routine.builds, Cursor.depth_enter] at hinside ⊢
      omega
  | stop _ => simp
  | more first _ ihfirst ihrest =>
      have hrest := ihrest (first.depth.le.trans hc)
      rw [Cursor.room_congr first.depth] at hrest
      exact List.forall_mem_append.mpr ⟨ihfirst hc, hrest⟩
  | unclosed _ _ _ ih => exact List.forall_mem_singleton.mpr (depth_application_le hc (ih hc))
  | closed _ _ _ _ ih => exact List.forall_mem_singleton.mpr (depth_application_le hc (ih hc))

/-- An operand stands in the line. -/
theorem Reads.position_le_length (h : Reads ls .operand c es ts c') :
    c.position ≤ ls.length := by
  cases h with
  | leaf h => exact (List.getElem?_eq_some_iff.mp h).1.le
  | nested h _ _ => exact (List.getElem?_eq_some_iff.mp h).1.le

/-! ### Lines -/

theorem start_position_le (ls : List Lexeme) : (start ls).position ≤ ls.length := by
  cases hp : isParenthesised ls with
  | false => simp [start, hp]
  | true =>
      obtain ⟨rest, rfl⟩ := exists_eq_opening_cons hp
      simp [start, hp]

theorem depth_start_le (ls : List Lexeme) : (start ls).depth ≤ maxNesting :=
  Int.natCast_nonneg maxNesting

section Lines

variable {r : Except Complaint Tree}

theorem Line.keeps (h : Line ls es r c) : ∀ e ∈ es, Keeps ls (start ls) e := by
  cases h with
  | reads h _ => exact h.keeps
  | behind h _ => exact h.keeps
  | fails h => exact h.keeps

theorem Line.bounded (h : Line ls es r c) : Bounded ls (start ls) c := by
  cases h with
  | reads h _ => exact h.bounded
  | behind h _ => exact h.bounded
  | fails h => exact h.level.toBounded

theorem Line.peak_le (h : Line ls es r c) : peak es ≤ maxNesting + 1 := by
  have hstart := depth_start_le ls
  cases h with
  | reads h _ => exact h.peak_le hstart
  | behind h _ => exact h.peak_le hstart
  | fails h => exact h.peak_le hstart

theorem Line.depth_tree_le {t : Tree} (h : Line ls es (.ok t) c) : t.depth ≤ maxNesting + 1 := by
  cases h with
  | reads h _ =>
      have hdepth := h.depth_tree_le (depth_start_le ls) t (List.mem_singleton_self t)
      simp only [Cursor.room, start, Routine.builds] at hdepth
      omega

/-- From the start of a line the counter is in its bounds and the position in the line. -/
theorem Bounded.of_start (h : Bounded ls (start ls) c) :
    (0 ≤ c.depth ∧ c.depth ≤ 100) ∧ c.position ≤ ls.length :=
  ⟨⟨h.depth_le, h.limit (depth_start_le ls)⟩, h.inside (start_position_le ls)⟩

/-- From the start of a line the counter is the number of open parentheses, the one around the
line left out. -/
theorem Level.surplus_of_start (h : Level ls (start ls) c) :
    surplus ((ls.take c.position).drop (start ls).position) = c.depth := by
  have hlevel := h.level
  have hsplit := congrArg surplus (List.take_append_drop (start ls).position (ls.take c.position))
  rw [surplus_append, List.take_take, Nat.min_eq_left h.position_le] at hsplit
  have hstart : (start ls).depth = 0 := rfl
  omega

end Lines

/-- **Nesting stays bounded at every moment of a descent**, on lines that are read and on lines
that are refused. The descent ends on every line, and what it answers is what the reader answers. A
call for an operand that returns leaves the counter as it was and takes at least one lexeme. At
every call and every return, and where the descent ends, the counter is between zero and the limit
and the position in the line, and where an operand is called for or returned the counter is the
number of parentheses that are open around operands. So there are never more than 101 applications
under construction, and a tree that is read is no deeper, nor is any position in it, down to which
evaluating or writing the tree calls itself. -/
theorem nesting_stays_bounded (ks : List Token) (endColumn : Nat) :
    let ls := ks.map Token.lexeme
    (∃ es r c, Line ls es r c) ∧
    (∀ c es ts c', Reads ls .operand c es ts c' →
      c'.depth = c.depth ∧ c.position < c'.position ∧ c'.position ≤ ls.length) ∧
    (∀ es r c, Line ls es r c →
      (ks ≠ [] → Tree.ofTokens endColumn ks = answer endColumn ks r c) ∧
      (∀ c' ∈ c :: es.map Event.cursor,
        (0 ≤ c'.depth ∧ c'.depth ≤ 100) ∧ c'.position ≤ ls.length) ∧
      (∀ c', .call .operand c' ∈ es ∨ .back .operand c' ∈ es →
        surplus ((ls.take c'.position).drop (start ls).position) = c'.depth) ∧
      ∀ es', es' <+: es → underConstruction es' ≤ 101) ∧
    ∀ t, Tree.ofTokens endColumn ks = .ok t →
      t.depth ≤ 101 ∧ ∀ p u, t.subtree? p = some u → p.length ≤ 101 := by
  intro ls
  refine ⟨exists_line ls, ?_, ?_, ?_⟩
  · intro c es ts c' hreads
    exact ⟨hreads.depth, hreads.position_lt, hreads.bounded.inside hreads.position_le_length⟩
  · intro es r c hline
    refine ⟨fun hks => hline.ofTokens_eq hks endColumn, ?_, ?_, ?_⟩
    · rw [List.forall_mem_cons, List.forall_mem_map]
      exact ⟨hline.bounded.of_start, fun e he => (hline.keeps e he).bounded.of_start⟩
    · intro c' hevent
      rcases hevent with hcall | hback
      · exact Level.surplus_of_start (hline.keeps _ hcall)
      · exact Level.surplus_of_start (hline.keeps _ hback)
    · intro es' hes'
      exact (underConstruction_le_peak hes').trans hline.peak_le
  · intro t ht
    obtain ⟨es, c, hline⟩ := exists_line_of_ok ht
    have hdepth : t.depth ≤ 101 := hline.depth_tree_le
    refine ⟨hdepth, ?_⟩
    intro p u hu
    exact (Tree.length_le_depth hu).trans hdepth

/-- The end of the line comes inside the parentheses of the one operand, with two applications
under construction. -/
theorem nesting_stays_bounded_of_unclosed :
    let ks := Token.scan "+ (* 2"
    let ls := ks.map Token.lexeme
    let es : List Event :=
      [.call (.application false) ⟨0, 0⟩, .call .operand ⟨1, 0⟩, .call (.application true) ⟨2, 1⟩,
        .call .operand ⟨3, 1⟩, .back .operand ⟨4, 1⟩]
    Line ls es (.error .expectedClosing) ⟨4, 1⟩ ∧
      Tree.ofTokens 7 ks = .error ⟨.expectedClosing, 7⟩ ∧
      surplus ((ls.take 4).drop (start ls).position) = 1 ∧ underConstruction es = 2 ∧
      ∀ es', es' <+: es → underConstruction es' ≤ 101 := by
  intro ks ls es
  have hoperand : Reads ls .operands ⟨3, 1⟩ [.call .operand ⟨3, 1⟩, .back .operand ⟨4, 1⟩]
      [.leaf "2"] ⟨4, 1⟩ :=
    .more (.leaf rfl) (.stop (by decide))
  have hinside : Fails ls (.application true) ⟨2, 1⟩
      [.call (.application true) ⟨2, 1⟩, .call .operand ⟨3, 1⟩, .back .operand ⟨4, 1⟩]
      .expectedClosing ⟨4, 1⟩ :=
    .closing ⟨rfl, by decide⟩ hoperand (by simp) rfl
  have hline : Line ls es (.error .expectedClosing) ⟨4, 1⟩ :=
    .fails (.operands ⟨rfl, by decide⟩ (.first (.nested rfl (by decide) hinside)))
  obtain ⟨-, -, hbounds, -⟩ := nesting_stays_bounded ks 7
  obtain ⟨hanswer, -, hsurplus, hbuilding⟩ := hbounds es _ _ hline
  exact ⟨hline, hanswer (by decide), hsurplus ⟨4, 1⟩ (by decide), rfl, hbuilding⟩

end Descent

end PrefixCalc
